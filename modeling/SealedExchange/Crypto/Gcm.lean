import SealedExchange.Crypto.Aes

/-! # Authenticated encryption

AES-256 in Galois counter mode with a twelve-byte nonce and no associated data. Sealing returns
the ciphertext followed by its sixteen-byte tag; opening checks the tag first. The main statement
is that opening returns exactly what was sealed under the same key and nonce.
-/

namespace SealedExchange.Crypto.Gcm

/-- The length of a nonce in bytes. -/
def nonceLength : Nat := 12

/-- The length of a tag in bytes. -/
def tagLength : Nat := 16

/-- Multiplication in the field of `2 ^ 128` elements, whose polynomials are written with the
constant term in the most significant bit. -/
def multiply (x y : Nat) : Nat :=
  ((List.range 128).foldl (fun (acc : Nat × Nat) i =>
    (if x.testBit (127 - i) then acc.1 ^^^ acc.2 else acc.1,
      if acc.2 % 2 = 1 then acc.2 / 2 ^^^ (0xe1 <<< 120) else acc.2 / 2)) (0, y)).1

/-- The hash of a ciphertext in the field, with its bit length as the last block. -/
def fieldHash (h : Nat) (cipherText : Bytes) : Nat :=
  let padded := (cipherText.chunks 16).map fun block =>
    Bytes.toNatBE (block ++ List.replicate (16 - block.length) 0)
  (padded ++ [8 * cipherText.length]).foldl (fun acc block => multiply (acc ^^^ block) h) 0

/-- The counter block with a given counter. -/
def counterBlock (nonce : Bytes) (counter : Nat) : Bytes :=
  nonce ++ Bytes.ofNatBE 4 counter

/-- The first `length` bytes of the key stream, which starts at counter two. -/
def keyStream (keys : List Aes.Block) (nonce : Bytes) (length : Nat) : Bytes :=
  ((List.range ((length + 15) / 16)).flatMap fun i =>
    Aes.encryptBytes keys (counterBlock nonce (i + 2))).take length

/-- The tag of a ciphertext. -/
def tag (keys : List Aes.Block) (nonce cipherText : Bytes) : Bytes :=
  let h := Bytes.toNatBE (Aes.encryptBytes keys (List.replicate 16 0))
  (Bytes.ofNatBE 16 (fieldHash h cipherText)).xor (Aes.encryptBytes keys (counterBlock nonce 1))

/-- Seals a message: the ciphertext and then its tag. -/
def encrypt (key nonce message : Bytes) : Bytes :=
  let keys := Aes.roundKeys key
  let cipherText := Bytes.xor message (keyStream keys nonce message.length)
  cipherText ++ tag keys nonce cipherText

/-- Opens a sealed message, or refuses it if it is too short or its tag is wrong. -/
def decrypt? (key nonce sealed : Bytes) : Option Bytes :=
  let keys := Aes.roundKeys key
  let cipherText := sealed.take (sealed.length - tagLength)
  if tagLength ≤ sealed.length ∧ sealed.drop (sealed.length - tagLength) = tag keys nonce cipherText
  then some (Bytes.xor cipherText (keyStream keys nonce cipherText.length))
  else none

@[simp] theorem length_encryptBytes (keys : List Aes.Block) (bytes : Bytes) :
    (Aes.encryptBytes keys bytes).length = 16 := by
  simp [Aes.encryptBytes]

@[simp] theorem length_keyStream (keys : List Aes.Block) (nonce : Bytes) (length : Nat) :
    (keyStream keys nonce length).length = length := by
  simp only [keyStream, List.length_take, List.length_flatMap, length_encryptBytes, List.map_const',
    List.length_range, List.sum_replicate_nat]
  omega

@[simp] theorem length_tag (keys : List Aes.Block) (nonce cipherText : Bytes) :
    (tag keys nonce cipherText).length = tagLength := by
  simp [tag, Bytes.xor, tagLength]

/-- Mixing the same key stream in twice gives the message back. -/
theorem xor_xor_cancel (message stream : Bytes) (h : message.length = stream.length) :
    Bytes.xor (Bytes.xor message stream) stream = message := by
  induction message generalizing stream with
  | nil => simp [Bytes.xor]
  | cons b rest ih =>
    cases stream with
    | nil => simp at h
    | cons k stream =>
      have hrest := ih stream (by simpa using h)
      simp only [Bytes.xor, List.zipWith_cons_cons] at hrest ⊢
      rw [hrest, UInt8.xor_assoc, UInt8.xor_self, UInt8.xor_zero]

/-- What was sealed under a key and a nonce is opened under them. -/
theorem decrypt?_encrypt (key nonce message : Bytes) :
    decrypt? key nonce (encrypt key nonce message) = some message := by
  generalize hc : Bytes.xor message (keyStream (Aes.roundKeys key) nonce message.length) = c
  have hlen : c.length = message.length := by simp [← hc, Bytes.xor]
  have htake (t : Bytes) (ht : t.length = tagLength) :
      (c ++ t).take ((c ++ t).length - tagLength) = c := by simp [ht]
  have hdrop (t : Bytes) (ht : t.length = tagLength) :
      (c ++ t).drop ((c ++ t).length - tagLength) = t := by simp [ht]
  simp only [decrypt?, encrypt, hc, htake _ (length_tag _ _ _), hdrop _ (length_tag _ _ _)]
  rw [if_pos (by simp), hlen, ← hc, xor_xor_cancel _ _ (by simp)]

/-- Sealing adds the tag to the length. -/
@[simp] theorem length_encrypt (key nonce message : Bytes) :
    (encrypt key nonce message).length = message.length + tagLength := by
  simp [encrypt, Bytes.xor]

end SealedExchange.Crypto.Gcm
