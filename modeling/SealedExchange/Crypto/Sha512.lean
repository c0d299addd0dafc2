import SealedExchange.Bytes
import SealedExchange.Crypto.RootDigits

/-! # SHA-512

The 512-bit hash of the Secure Hash Standard: the message is padded to whole 128-byte blocks, and
each block is folded into eight 64-bit words by eighty rounds.
-/

namespace SealedExchange.Crypto.Sha512

/-- The chaining value: eight 64-bit words. -/
structure State where
  a : UInt64
  b : UInt64
  c : UInt64
  d : UInt64
  e : UInt64
  f : UInt64
  g : UInt64
  h : UInt64

/-- One constant for each round: digits of the cube roots of the first eighty primes. -/
def roundConstants : Array UInt64 :=
  ((primesBelow 410).map (rootDigits 3)).toArray

/-- The digits of the square roots of the first eight primes. -/
def initialState : State where
  a := rootDigits 2 2
  b := rootDigits 2 3
  c := rootDigits 2 5
  d := rootDigits 2 7
  e := rootDigits 2 11
  f := rootDigits 2 13
  g := rootDigits 2 17
  h := rootDigits 2 19

/-- Rotates a word to the right by fewer than 64 places. -/
@[inline] def rotateRight (x n : UInt64) : UInt64 := (x >>> n) ||| (x <<< (64 - n))

/-- Extends the sixteen words of a block to one word for each round. -/
def schedule (block : Bytes) : Array UInt64 :=
  let first := (block.chunks 8).map fun word => UInt64.ofNat word.toNatBE
  (List.range 64).foldl (fun w i =>
    let w15 := w.getD (i + 1) 0
    let w2 := w.getD (i + 14) 0
    let s0 := rotateRight w15 1 ^^^ rotateRight w15 8 ^^^ (w15 >>> 7)
    let s1 := rotateRight w2 19 ^^^ rotateRight w2 61 ^^^ (w2 >>> 6)
    w.push (w.getD i 0 + s0 + w.getD (i + 9) 0 + s1)) first.toArray

/-- One round with its constant and its word of the schedule. -/
def round (s : State) (constant word : UInt64) : State :=
  let sum1 := rotateRight s.e 14 ^^^ rotateRight s.e 18 ^^^ rotateRight s.e 41
  let choice := (s.e &&& s.f) ^^^ (~~~s.e &&& s.g)
  let t1 := s.h + sum1 + choice + constant + word
  let sum0 := rotateRight s.a 28 ^^^ rotateRight s.a 34 ^^^ rotateRight s.a 39
  let majority := (s.a &&& s.b) ^^^ (s.a &&& s.c) ^^^ (s.b &&& s.c)
  ⟨t1 + (sum0 + majority), s.a, s.b, s.c, s.d + t1, s.e, s.f, s.g⟩

/-- Folds one 128-byte block into the chaining value. -/
def compress (s : State) (block : Bytes) : State :=
  let w := schedule block
  let r := (List.range 80).foldl (fun r i => round r (roundConstants.getD i 0) (w.getD i 0)) s
  ⟨s.a + r.a, s.b + r.b, s.c + r.c, s.d + r.d, s.e + r.e, s.f + r.f, s.g + r.g, s.h + r.h⟩

/-- Appends a one bit, zeros and the bit length, up to a whole number of blocks. -/
def pad (message : Bytes) : Bytes :=
  message ++ 0x80 :: List.replicate ((239 - message.length % 128) % 128) 0 ++
    Bytes.ofNatBE 16 (8 * message.length)

/-- The 64 bytes of a final chaining value. -/
def State.toBytes (s : State) : Bytes :=
  [s.a, s.b, s.c, s.d, s.e, s.f, s.g, s.h].flatMap fun word => Bytes.ofNatBE 8 word.toNat

/-- The 64-byte hash of a message. -/
def digest (message : Bytes) : Bytes :=
  (((pad message).chunks 128).foldl compress initialState).toBytes

@[simp] theorem length_digest (message : Bytes) : (digest message).length = 64 := by
  simp [digest, State.toBytes]

theorem length_digest_lt (message : Bytes) : (digest message).length < Bytes.count 8 := by
  rw [length_digest]
  decide

end SealedExchange.Crypto.Sha512
