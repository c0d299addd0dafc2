import SealedExchange.Bytes

/-! # AES with a 256-bit key

The block cipher of the Advanced Encryption Standard, in the encrypting direction only: counter
mode needs no other. A block is sixteen bytes in column order, so byte `4 c + r` stands in row `r`
of column `c`.
-/

namespace SealedExchange.Crypto.Aes

/-- Sixteen bytes in column order. -/
abbrev Block := Vector UInt8 16

/-- Multiplication by the polynomial `x` in the field of 256 elements. -/
def double (b : UInt8) : UInt8 :=
  (b <<< 1) ^^^ (if b < 0x80 then 0 else 0x1b)

/-- Multiplication in the field of 256 elements. -/
def multiply (a b : UInt8) : UInt8 :=
  ((List.range 8).foldl (fun (acc : UInt8 × UInt8) i =>
    (if (b >>> UInt8.ofNat i) &&& 1 = 1 then acc.1 ^^^ acc.2 else acc.1, double acc.2)) (0, a)).1

/-- The multiplicative inverse, with zero for zero: the power 254. -/
def inverse (b : UInt8) : UInt8 :=
  (List.range 253).foldl (fun acc _ => multiply acc b) b

/-- Rotates a byte to the left by fewer than eight places. -/
def rotateLeft (b n : UInt8) : UInt8 := (b <<< n) ||| (b >>> (8 - n))

/-- The substitution of every byte: the inverse followed by an affine map on bits. -/
def substitutionTable : Array UInt8 :=
  Array.ofFn fun i : Fin 256 =>
    let b := inverse (UInt8.ofNat i)
    b ^^^ rotateLeft b 1 ^^^ rotateLeft b 2 ^^^ rotateLeft b 3 ^^^ rotateLeft b 4 ^^^ 0x63

/-- The substitute of a byte. -/
@[inline] def substitute (b : UInt8) : UInt8 := substitutionTable.getD b.toNat 0

/-- Rotates row `r` to the left by `r` places. -/
def shiftRows (s : Block) : Block :=
  Vector.ofFn fun i : Fin 16 => s[i + 4 * (i % 4)]

/-- Multiplies every column by the fixed circulant matrix with the row 2, 3, 1, 1. -/
def mixColumns (s : Block) : Block :=
  Vector.ofFn fun i : Fin 16 =>
    let base := i - i % 4
    let a0 := s[i]
    let a1 := s[base + (i + 1) % 4]
    let a2 := s[base + (i + 2) % 4]
    let a3 := s[base + (i + 3) % 4]
    double (a0 ^^^ a1) ^^^ a1 ^^^ a2 ^^^ a3

/-- Adds a round key. -/
def addKey (s key : Block) : Block := Vector.zipWith (· ^^^ ·) s key

/-- The sixty words of the key schedule of a 32-byte key. -/
def keyWords (key : Bytes) : Array Bytes :=
  ((List.range 52).foldl (fun (acc : Array Bytes × UInt8) i =>
    let words := acc.1
    let previous := words.getD (i + 7) []
    let old := words.getD i []
    if i % 8 = 0 then
      let turned := (previous.drop 1 ++ previous.take 1).map substitute
      (words.push (Bytes.xor old (Bytes.xor turned [acc.2, 0, 0, 0])), double acc.2)
    else if i % 8 = 4 then
      (words.push (Bytes.xor old (previous.map substitute)), acc.2)
    else
      (words.push (Bytes.xor old previous), acc.2)) ((Bytes.chunks 4 key).toArray, 1)).1

/-- The block of the first sixteen bytes of a string, filled up with zeros. -/
def Block.ofBytes (bytes : Bytes) : Block :=
  let cells := bytes.toArray
  Vector.ofFn fun i : Fin 16 => cells.getD i 0

/-- The fifteen round keys of a 32-byte key. -/
def roundKeys (key : Bytes) : List Block :=
  (Bytes.chunks 16 (keyWords key).toList.flatten).map Block.ofBytes

/-- Runs the rounds that remain, of which the last one leaves the columns unmixed. -/
def rounds (s : Block) : List Block → Block
  | [] => s
  | [last] => addKey (shiftRows (s.map substitute)) last
  | key :: rest => rounds (addKey (mixColumns (shiftRows (s.map substitute))) key) rest

/-- Encrypts one block under the round keys of a key. -/
def encryptBlock (keys : List Block) (block : Block) : Block :=
  match keys with
  | [] => block
  | first :: rest => rounds (addKey block first) rest

/-- Encrypts a string of sixteen bytes. -/
def encryptBytes (keys : List Block) (bytes : Bytes) : Bytes :=
  (encryptBlock keys (Block.ofBytes bytes)).toList

end SealedExchange.Crypto.Aes
