import SealedExchange.Bytes
import SealedExchange.Crypto.RootDigits

/-! # SHA-256 and HMAC

The 256-bit hash of the Secure Hash Standard, with 64-byte blocks and 32-bit words, and the keyed
hash that is built on it.
-/

namespace SealedExchange.Crypto.Sha256

/-- The chaining value: eight 32-bit words. -/
structure State where
  a : UInt32
  b : UInt32
  c : UInt32
  d : UInt32
  e : UInt32
  f : UInt32
  g : UInt32
  h : UInt32

/-- The first 32 of the digits that `rootDigits` gives. -/
def shortRootDigits (k n : Nat) : UInt32 := (rootDigits k n >>> 32).toUInt32

/-- One constant for each round: digits of the cube roots of the first 64 primes. -/
def roundConstants : Array UInt32 :=
  ((primesBelow 312).map (shortRootDigits 3)).toArray

/-- The digits of the square roots of the first eight primes. -/
def initialState : State where
  a := shortRootDigits 2 2
  b := shortRootDigits 2 3
  c := shortRootDigits 2 5
  d := shortRootDigits 2 7
  e := shortRootDigits 2 11
  f := shortRootDigits 2 13
  g := shortRootDigits 2 17
  h := shortRootDigits 2 19

/-- Rotates a word to the right by fewer than 32 places. -/
@[inline] def rotateRight (x n : UInt32) : UInt32 := (x >>> n) ||| (x <<< (32 - n))

/-- Extends the sixteen words of a block to one word for each round. -/
def schedule (block : Bytes) : Array UInt32 :=
  let first := (block.chunks 4).map fun word => UInt32.ofNat word.toNatBE
  (List.range 48).foldl (fun w i =>
    let w15 := w.getD (i + 1) 0
    let w2 := w.getD (i + 14) 0
    let s0 := rotateRight w15 7 ^^^ rotateRight w15 18 ^^^ (w15 >>> 3)
    let s1 := rotateRight w2 17 ^^^ rotateRight w2 19 ^^^ (w2 >>> 10)
    w.push (w.getD i 0 + s0 + w.getD (i + 9) 0 + s1)) first.toArray

/-- One round with its constant and its word of the schedule. -/
def round (s : State) (constant word : UInt32) : State :=
  let sum1 := rotateRight s.e 6 ^^^ rotateRight s.e 11 ^^^ rotateRight s.e 25
  let choice := (s.e &&& s.f) ^^^ (~~~s.e &&& s.g)
  let t1 := s.h + sum1 + choice + constant + word
  let sum0 := rotateRight s.a 2 ^^^ rotateRight s.a 13 ^^^ rotateRight s.a 22
  let majority := (s.a &&& s.b) ^^^ (s.a &&& s.c) ^^^ (s.b &&& s.c)
  ⟨t1 + (sum0 + majority), s.a, s.b, s.c, s.d + t1, s.e, s.f, s.g⟩

/-- Folds one 64-byte block into the chaining value. -/
def compress (s : State) (block : Bytes) : State :=
  let w := schedule block
  let r := (List.range 64).foldl (fun r i => round r (roundConstants.getD i 0) (w.getD i 0)) s
  ⟨s.a + r.a, s.b + r.b, s.c + r.c, s.d + r.d, s.e + r.e, s.f + r.f, s.g + r.g, s.h + r.h⟩

/-- Appends a one bit, zeros and the bit length, up to a whole number of blocks. -/
def pad (message : Bytes) : Bytes :=
  message ++ 0x80 :: List.replicate ((119 - message.length % 64) % 64) 0 ++
    Bytes.ofNatBE 8 (8 * message.length)

/-- The 32 bytes of a final chaining value. -/
def State.toBytes (s : State) : Bytes :=
  [s.a, s.b, s.c, s.d, s.e, s.f, s.g, s.h].flatMap fun word => Bytes.ofNatBE 4 word.toNat

/-- The 32-byte hash of a message. -/
def digest (message : Bytes) : Bytes :=
  (((pad message).chunks 64).foldl compress initialState).toBytes

@[simp] theorem length_digest (message : Bytes) : (digest message).length = 32 := by
  simp [digest, State.toBytes]

/-- The keyed hash: a key longer than a block is hashed first, and the padded key is mixed into
an inner and an outer hash. -/
def hmac (key message : Bytes) : Bytes :=
  let short := if key.length > 64 then digest key else key
  let block := short ++ List.replicate (64 - short.length) 0
  digest (block.map (· ^^^ 0x5c) ++ digest (block.map (· ^^^ 0x36) ++ message))

@[simp] theorem length_hmac (key message : Bytes) : (hmac key message).length = 32 := by
  simp [hmac]

end SealedExchange.Crypto.Sha256
