import SealedExchange.Crypto.Blake2b

/-! # Argon2id

The memory-hard function that turns a password and a salt into a key, in its hybrid variant with
one lane. Memory is a row of 1024-byte blocks. The first half of the first pass chooses the blocks
it reads by a counter, everything later by the contents of the block written last.
-/

namespace SealedExchange.Crypto.Argon2

/-- What a derivation costs. -/
structure Cost where
  /-- The number of 1024-byte blocks. -/
  blocks : Nat
  /-- The number of passes over the memory. -/
  passes : Nat

/-- The recommended cost: 19 MiB and two passes. -/
def Cost.standard : Cost := ⟨19456, 2⟩

/-- Sixteen words of a block. -/
structure Row where
  w0 : UInt64
  w1 : UInt64
  w2 : UInt64
  w3 : UInt64
  w4 : UInt64
  w5 : UInt64
  w6 : UInt64
  w7 : UInt64
  w8 : UInt64
  w9 : UInt64
  w10 : UInt64
  w11 : UInt64
  w12 : UInt64
  w13 : UInt64
  w14 : UInt64
  w15 : UInt64

/-- A block of memory: eight rows. -/
structure Block where
  r0 : Row
  r1 : Row
  r2 : Row
  r3 : Row
  r4 : Row
  r5 : Row
  r6 : Row
  r7 : Row

/-- The row of zeros. -/
def Row.zero : Row := ⟨0, 0, 0, 0, 0, 0, 0, 0, 0, 0, 0, 0, 0, 0, 0, 0⟩

/-- The block of zeros. -/
def Block.zero : Block :=
  ⟨Row.zero, Row.zero, Row.zero, Row.zero, Row.zero, Row.zero, Row.zero, Row.zero⟩

/-- The exclusive or of two rows. -/
def Row.xor (a b : Row) : Row :=
  ⟨a.w0 ^^^ b.w0, a.w1 ^^^ b.w1, a.w2 ^^^ b.w2, a.w3 ^^^ b.w3,
    a.w4 ^^^ b.w4, a.w5 ^^^ b.w5, a.w6 ^^^ b.w6, a.w7 ^^^ b.w7,
    a.w8 ^^^ b.w8, a.w9 ^^^ b.w9, a.w10 ^^^ b.w10, a.w11 ^^^ b.w11,
    a.w12 ^^^ b.w12, a.w13 ^^^ b.w13, a.w14 ^^^ b.w14, a.w15 ^^^ b.w15⟩

/-- Applies a function to every row. -/
@[specialize] def Block.map (f : Row → Row) (b : Block) : Block :=
  ⟨f b.r0, f b.r1, f b.r2, f b.r3, f b.r4, f b.r5, f b.r6, f b.r7⟩

/-- The exclusive or of two blocks. -/
def Block.xor (a b : Block) : Block :=
  ⟨a.r0.xor b.r0, a.r1.xor b.r1, a.r2.xor b.r2, a.r3.xor b.r3,
    a.r4.xor b.r4, a.r5.xor b.r5, a.r6.xor b.r6, a.r7.xor b.r7⟩

/-- Exchanges rows and columns, where a cell is a pair of words. -/
def Block.transpose (b : Block) : Block :=
  ⟨⟨b.r0.w0, b.r0.w1, b.r1.w0, b.r1.w1, b.r2.w0, b.r2.w1, b.r3.w0, b.r3.w1,
     b.r4.w0, b.r4.w1, b.r5.w0, b.r5.w1, b.r6.w0, b.r6.w1, b.r7.w0, b.r7.w1⟩,
    ⟨b.r0.w2, b.r0.w3, b.r1.w2, b.r1.w3, b.r2.w2, b.r2.w3, b.r3.w2, b.r3.w3,
     b.r4.w2, b.r4.w3, b.r5.w2, b.r5.w3, b.r6.w2, b.r6.w3, b.r7.w2, b.r7.w3⟩,
    ⟨b.r0.w4, b.r0.w5, b.r1.w4, b.r1.w5, b.r2.w4, b.r2.w5, b.r3.w4, b.r3.w5,
     b.r4.w4, b.r4.w5, b.r5.w4, b.r5.w5, b.r6.w4, b.r6.w5, b.r7.w4, b.r7.w5⟩,
    ⟨b.r0.w6, b.r0.w7, b.r1.w6, b.r1.w7, b.r2.w6, b.r2.w7, b.r3.w6, b.r3.w7,
     b.r4.w6, b.r4.w7, b.r5.w6, b.r5.w7, b.r6.w6, b.r6.w7, b.r7.w6, b.r7.w7⟩,
    ⟨b.r0.w8, b.r0.w9, b.r1.w8, b.r1.w9, b.r2.w8, b.r2.w9, b.r3.w8, b.r3.w9,
     b.r4.w8, b.r4.w9, b.r5.w8, b.r5.w9, b.r6.w8, b.r6.w9, b.r7.w8, b.r7.w9⟩,
    ⟨b.r0.w10, b.r0.w11, b.r1.w10, b.r1.w11, b.r2.w10, b.r2.w11, b.r3.w10, b.r3.w11,
     b.r4.w10, b.r4.w11, b.r5.w10, b.r5.w11, b.r6.w10, b.r6.w11, b.r7.w10, b.r7.w11⟩,
    ⟨b.r0.w12, b.r0.w13, b.r1.w12, b.r1.w13, b.r2.w12, b.r2.w13, b.r3.w12, b.r3.w13,
     b.r4.w12, b.r4.w13, b.r5.w12, b.r5.w13, b.r6.w12, b.r6.w13, b.r7.w12, b.r7.w13⟩,
    ⟨b.r0.w14, b.r0.w15, b.r1.w14, b.r1.w15, b.r2.w14, b.r2.w15, b.r3.w14, b.r3.w15,
     b.r4.w14, b.r4.w15, b.r5.w14, b.r5.w15, b.r6.w14, b.r6.w15, b.r7.w14, b.r7.w15⟩⟩

/-- Four words that are mixed with one another. -/
structure Quad where
  a : UInt64
  b : UInt64
  c : UInt64
  d : UInt64

/-- The sum of two words and twice the product of their low halves. -/
@[inline] def multiplyAdd (x y : UInt64) : UInt64 :=
  x + y + 2 * (x &&& 0xffffffff) * (y &&& 0xffffffff)

/-- Mixes four words. -/
@[inline] def Quad.mix (q : Quad) : Quad :=
  let a := multiplyAdd q.a q.b
  let d := Blake2b.rotateRight (q.d ^^^ a) 32
  let c := multiplyAdd q.c d
  let b := Blake2b.rotateRight (q.b ^^^ c) 24
  let a := multiplyAdd a b
  let d := Blake2b.rotateRight (d ^^^ a) 16
  let c := multiplyAdd c d
  let b := Blake2b.rotateRight (b ^^^ c) 63
  ⟨a, b, c, d⟩

/-- Mixes the columns and then the diagonals of a row seen as a square of words. -/
def Row.permute (r : Row) : Row :=
  let p := (⟨r.w0, r.w4, r.w8, r.w12⟩ : Quad).mix
  let q := (⟨r.w1, r.w5, r.w9, r.w13⟩ : Quad).mix
  let s := (⟨r.w2, r.w6, r.w10, r.w14⟩ : Quad).mix
  let t := (⟨r.w3, r.w7, r.w11, r.w15⟩ : Quad).mix
  let e := (⟨p.a, q.b, s.c, t.d⟩ : Quad).mix
  let f := (⟨q.a, s.b, t.c, p.d⟩ : Quad).mix
  let g := (⟨s.a, t.b, p.c, q.d⟩ : Quad).mix
  let h := (⟨t.a, p.b, q.c, s.d⟩ : Quad).mix
  ⟨e.a, f.a, g.a, h.a, h.b, e.b, f.b, g.b, g.c, h.c, e.c, f.c, f.d, g.d, h.d, e.d⟩

/-- The compression of two blocks into one. -/
def compress (a b : Block) : Block :=
  let r := a.xor b
  r.xor ((r.map Row.permute).transpose.map Row.permute).transpose

/-- The row whose words start at a place in an array. -/
def Row.ofWords (words : Array UInt64) (start : Nat) : Row :=
  ⟨words.getD (start + 0) 0, words.getD (start + 1) 0, words.getD (start + 2) 0,
    words.getD (start + 3) 0, words.getD (start + 4) 0, words.getD (start + 5) 0,
    words.getD (start + 6) 0, words.getD (start + 7) 0, words.getD (start + 8) 0,
    words.getD (start + 9) 0, words.getD (start + 10) 0, words.getD (start + 11) 0,
    words.getD (start + 12) 0, words.getD (start + 13) 0, words.getD (start + 14) 0,
    words.getD (start + 15) 0⟩

/-- The words of a row in order. -/
def Row.words (r : Row) : List UInt64 :=
  [r.w0, r.w1, r.w2, r.w3, r.w4, r.w5, r.w6, r.w7, r.w8, r.w9, r.w10, r.w11,
    r.w12, r.w13, r.w14, r.w15]

/-- The block of 128 words. -/
def Block.ofWords (words : Array UInt64) : Block :=
  ⟨Row.ofWords words 0, Row.ofWords words 16, Row.ofWords words 32, Row.ofWords words 48,
    Row.ofWords words 64, Row.ofWords words 80, Row.ofWords words 96, Row.ofWords words 112⟩

/-- The 128 words of a block in order. -/
def Block.words (b : Block) : List UInt64 :=
  [b.r0, b.r1, b.r2, b.r3, b.r4, b.r5, b.r6, b.r7].flatMap Row.words

/-- The block of 1024 bytes. -/
def Block.ofBytes (bytes : Bytes) : Block :=
  Block.ofWords ((bytes.chunks 8).map fun word => UInt64.ofNat word.toNatLE).toArray

/-- The 1024 bytes of a block. -/
def Block.toBytes (b : Block) : Bytes :=
  b.words.flatMap fun word => Bytes.ofNatLE 8 word.toNat

/-- The hash of any length, built from 64-byte hashes that overlap by half. -/
def longHash (length : Nat) (input : Bytes) : Bytes :=
  let seeded := Bytes.ofNatLE 4 length ++ input
  if length ≤ 64 then Blake2b.digest length seeded
  else
    -- Every hash but the last gives its first half.
    let whole := (length + 31) / 32 - 2
    let (out, last) := (List.range (whole - 1)).foldl
      (fun (acc : Bytes × Bytes) _ =>
        let next := Blake2b.digest 64 acc.2
        (acc.1 ++ next.take 32, next))
      (let first := Blake2b.digest 64 seeded; (first.take 32, first))
    out ++ Blake2b.digest (length - 32 * whole) last

/-- The block of 128 addresses that stands in for contents while reading is independent of the
data. -/
def addressBlock (cost : Cost) (pass slice counter : Nat) : Array UInt64 :=
  let seed := ([pass, 0, slice, cost.blocks, cost.passes, 2, counter].map UInt64.ofNat).toArray
  (compress Block.zero (compress Block.zero (Block.ofWords seed))).words.toArray

/-- The place that is read when place `column` is written, chosen by the low half of a word. -/
def referencePlace (cost : Cost) (pass column : Nat) (word : UInt64) : Nat :=
  let segment := cost.blocks / 4
  let slice := column / segment
  -- In the first pass only what has been written can be read.
  let area := if pass = 0 then column - 1 else cost.blocks - segment + column % segment - 1
  let x := (word &&& 0xffffffff).toNat
  -- Squaring prefers places that were written lately.
  let offset := area - 1 - area * (x * x / Bytes.count 4) / Bytes.count 4
  let start := if pass = 0 ∨ slice = 3 then 0 else (slice + 1) * segment
  (start + offset) % cost.blocks

/-- Writes the places from number `n` on, counted over all passes. The addresses are those of the
current group of 128 places. -/
def fill (cost : Cost) : (remaining n : Nat) → Array UInt64 → Array Block → Array Block
  | 0, _, _, memory => memory
  | remaining + 1, n, addresses, memory =>
    let pass := n / cost.blocks
    let column := n % cost.blocks
    let slice := column / (cost.blocks / 4)
    let index := column % (cost.blocks / 4)
    let previous := memory.getD ((column + cost.blocks - 1) % cost.blocks) Block.zero
    -- The first half of the first pass does not depend on the data.
    let independent := pass = 0 ∧ slice < 2
    let addresses :=
      -- Places 0 and 1 exist from the start, so the first group begins at place 2.
      if independent ∧ (index % 128 = 0 ∨ n = 2) then
        addressBlock cost pass slice (index / 128 + 1)
      else addresses
    let word := if independent then addresses.getD (index % 128) 0 else previous.r0.w0
    let reference := memory.getD (referencePlace cost pass column word) Block.zero
    let fresh := compress previous reference
    if pass = 0 then
      fill cost remaining (n + 1) addresses (memory.push fresh)
    else
      -- Later passes mix into what the place held.
      let old := memory.getD column Block.zero
      fill cost remaining (n + 1) addresses (memory.setIfInBounds column (fresh.xor old))

/-- A field with its length in front. -/
def measured (field : Bytes) : Bytes := Bytes.ofNatLE 4 field.length ++ field

/-- The key of a password and a salt. -/
def derive (cost : Cost) (length : Nat) (password salt : Bytes) : Bytes :=
  -- One lane, version 0x13, variant 2, and neither a secret nor associated data.
  let seed := Blake2b.digest 64
    (([1, length, cost.blocks, cost.passes, 0x13, 2].flatMap (Bytes.ofNatLE 4)) ++
      measured password ++ measured salt ++ measured [] ++ measured [])
  let start (i : Nat) : Block :=
    Block.ofBytes (longHash 1024 (seed ++ Bytes.ofNatLE 4 i ++ Bytes.ofNatLE 4 0))
  let memory := fill cost (cost.blocks * cost.passes - 2) 2 #[] #[start 0, start 1]
  longHash length (memory.getD (cost.blocks - 1) Block.zero).toBytes

end SealedExchange.Crypto.Argon2
