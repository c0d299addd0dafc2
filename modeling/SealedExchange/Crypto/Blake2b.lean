import SealedExchange.Crypto.Sha512

/-! # BLAKE2b

The unkeyed 64-bit BLAKE2 hash with an output of up to 64 bytes.
-/

namespace SealedExchange.Crypto.Blake2b

/-- Rotates a word to the right by fewer than 64 places. -/
@[inline] def rotateRight (x n : UInt64) : UInt64 := (x >>> n) ||| (x <<< (64 - n))

/-- The eight initial words, which are those of SHA-512. -/
def initialWords : Array UInt64 :=
  let s := Sha512.initialState
  #[s.a, s.b, s.c, s.d, s.e, s.f, s.g, s.h]

/-- The order in which each round takes up the words of a block. -/
def permutations : List (List Nat) :=
  [[0, 1, 2, 3, 4, 5, 6, 7, 8, 9, 10, 11, 12, 13, 14, 15],
    [14, 10, 4, 8, 9, 15, 13, 6, 1, 12, 0, 2, 11, 7, 5, 3],
    [11, 8, 12, 0, 5, 2, 15, 13, 10, 14, 3, 6, 7, 1, 9, 4],
    [7, 9, 3, 1, 13, 12, 11, 14, 2, 6, 5, 10, 4, 0, 15, 8],
    [9, 0, 5, 7, 2, 4, 10, 15, 14, 1, 11, 12, 6, 8, 3, 13],
    [2, 12, 6, 10, 0, 11, 8, 3, 4, 13, 7, 5, 15, 14, 1, 9],
    [12, 5, 1, 15, 14, 13, 4, 10, 0, 7, 6, 3, 9, 2, 8, 11],
    [13, 11, 7, 14, 12, 1, 3, 9, 5, 0, 15, 4, 8, 6, 2, 10],
    [6, 15, 14, 9, 11, 3, 0, 8, 12, 2, 13, 7, 1, 4, 10, 5],
    [10, 2, 8, 4, 7, 6, 1, 5, 15, 11, 9, 14, 3, 12, 13, 0]]

/-- The twelve rounds' permutations: the first two are used twice. -/
def roundPermutations : List (List Nat) :=
  permutations ++ permutations.take 2

/-- Mixes two message words into four words of the state. -/
def mix (v : Array UInt64) (a b c d : Nat) (x y : UInt64) : Array UInt64 :=
  let va := v.getD a 0 + v.getD b 0 + x
  let vd := rotateRight (v.getD d 0 ^^^ va) 32
  let vc := v.getD c 0 + vd
  let vb := rotateRight (v.getD b 0 ^^^ vc) 24
  let va := va + vb + y
  let vd := rotateRight (vd ^^^ va) 16
  let vc := vc + vd
  let vb := rotateRight (vb ^^^ vc) 63
  (((v.setIfInBounds a va).setIfInBounds b vb).setIfInBounds c vc).setIfInBounds d vd

/-- The places that the eight mixings of a round work on: columns, then diagonals. -/
def places : List (Nat × Nat × Nat × Nat) :=
  [(0, 4, 8, 12), (1, 5, 9, 13), (2, 6, 10, 14), (3, 7, 11, 15),
    (0, 5, 10, 15), (1, 6, 11, 12), (2, 7, 8, 13), (3, 4, 9, 14)]

/-- One round over a block's words. -/
def round (words v : Array UInt64) (permutation : List Nat) : Array UInt64 :=
  let order := permutation.toArray
  places.zipIdx.foldl (fun v ((a, b, c, d), i) =>
    mix v a b c d (words.getD (order.getD (2 * i) 0) 0) (words.getD (order.getD (2 * i + 1) 0) 0)) v

/-- Folds a block into the eight words, given the number of bytes up to its end. -/
def compress (h : Array UInt64) (block : Bytes) (count : Nat) (last : Bool) : Array UInt64 :=
  let full := block ++ List.replicate (128 - block.length) 0
  let words := ((full.chunks 8).map fun word => UInt64.ofNat word.toNatLE).toArray
  let counted := (initialWords.modify 4 (· ^^^ UInt64.ofNat count)).modify 5
    (· ^^^ UInt64.ofNat (count / Bytes.count 8))
  let lower := if last then counted.modify 6 (~~~ ·) else counted
  let v := roundPermutations.foldl (round words) (h ++ lower)
  Array.ofFn fun i : Fin 8 => h.getD i 0 ^^^ v.getD i 0 ^^^ v.getD (i + 8) 0

/-- Folds the blocks of a message, the last of which is marked. -/
def absorb (h : Array UInt64) (count : Nat) : List Bytes → Array UInt64
  | [] => compress h [] count true
  | [block] => compress h block (count + block.length) true
  | block :: rest =>
    absorb (compress h block (count + block.length) false) (count + block.length) rest

/-- The hash of a message with an output of `length` bytes. -/
def digest (length : Nat) (message : Bytes) : Bytes :=
  let h := initialWords.modify 0 (· ^^^ (0x01010000 ^^^ UInt64.ofNat length))
  ((absorb h 0 (message.chunks 128)).toList.flatMap fun word =>
    Bytes.ofNatLE 8 word.toNat).take length

end SealedExchange.Crypto.Blake2b
