import SealedExchange.Text.Utf8

/-! # Percent-encoding

`%XX` stands for the byte with the hexadecimal digits `XX`. A percent sign without two such digits
after it, and every other character, stands for itself. Which bytes have to be written as an escape
depends on the place that the text is meant for.
-/

namespace SealedExchange.Text.Percent

/-- The value of a byte that is a hexadecimal digit. -/
def hexValue? (b : UInt8) : Option UInt8 :=
  if 0x30 ≤ b && b ≤ 0x39 then some (b - 0x30)
  else if 0x61 ≤ b && b ≤ 0x66 then some (b - 87)
  else if 0x41 ≤ b && b ≤ 0x46 then some (b - 55)
  else none

/-- Replaces every escape by its byte. -/
def decodeBytes : Bytes → Bytes
  | b :: high :: low :: rest =>
    match if b = 0x25 then hexValue? high else none, hexValue? low with
    | some h, some l => (16 * h + l) :: decodeBytes rest
    | _, _ => b :: decodeBytes (high :: low :: rest)
  | short => short

/-- Replaces every escape of a text, if the result is UTF-8. -/
def decode (text : String) : Except Utf8.DecodeError String :=
  Utf8.decode (decodeBytes (Utf8.encode text))

/-- The upper-case hexadecimal digit of a number below sixteen. -/
def hexDigit (n : UInt8) : UInt8 := if n < 10 then 0x30 + n else 55 + n

/-- The escape of a byte. -/
def escape (b : UInt8) : Bytes := [0x25, hexDigit (b / 16), hexDigit (b % 16)]

/-- Writes an escape for every byte that may not be kept. -/
def encodeBytes (keeps : UInt8 → Bool) (bytes : Bytes) : Bytes :=
  bytes.flatMap fun b => if keeps b then [b] else escape b

/-- Tests for a byte that stands for itself everywhere: a letter, a digit or one of `-`, `.`, `_`
and `~`. -/
def isUnreserved (b : UInt8) : Bool :=
  (0x30 ≤ b && b ≤ 0x39) || (0x41 ≤ b && b ≤ 0x5a) || (0x61 ≤ b && b ≤ 0x7a) ||
    b = 0x2d || b = 0x2e || b = 0x5f || b = 0x7e

/-- Escapes the bytes of a text that may not be kept. -/
def encodeWith (keeps : UInt8 → Bool) (text : String) : String :=
  String.ofList ((encodeBytes keeps (Utf8.encode text)).map fun b => Char.ofNat b.toNat)

/-- Escapes the bytes of a text that do not stand for themselves everywhere. -/
def encode (text : String) : String := encodeWith isUnreserved text

end SealedExchange.Text.Percent
