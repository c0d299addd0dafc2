import SealedExchange.Bytes
import SealedExchange.Text.Basic
import SealedExchange.Text.Percent

/-! # Header lines

A header is a line with a name and a value. The lines of a block end in a line feed, which a
carriage return may precede, and an empty line ends the block.
-/

namespace SealedExchange.Http

/-- A header: the name in small letters and the value. -/
structure Header where
  name : String
  value : Bytes
deriving DecidableEq, Repr

namespace Header

/-- The first line, without the line break, and what follows. -/
def takeLine? : Bytes → Option (Bytes × Bytes)
  | [] => none
  | 0x0a :: rest => some ([], rest)
  | 0x0d :: 0x0a :: rest => some ([], rest)
  | b :: rest => (takeLine? rest).map fun (line, after) => (b :: line, after)

/-- Tests for a byte that may stand in a line. -/
def isPrintable (b : UInt8) : Bool := b = 0x09 || (0x20 ≤ b && b ≠ 0x7f)

/-- Tests for a byte of a name. -/
def isToken (b : UInt8) : Bool :=
  Text.Percent.isUnreserved b ||
    b ∈ [0x21, 0x23, 0x24, 0x25, 0x26, 0x27, 0x2a, 0x2b, 0x5e, 0x60, 0x7c]

/-- Tests for a blank. -/
def isBlank (b : UInt8) : Bool := b = 0x20 || b = 0x09

/-- Drops blanks at both ends. -/
def trim (bytes : Bytes) : Bytes :=
  ((bytes.dropWhile isBlank).reverse.dropWhile isBlank).reverse

/-- The text of bytes, each of which is a character. -/
def asciiText (bytes : Bytes) : String := String.ofList (bytes.map fun b => Char.ofNat b.toNat)

/-- The longest name. -/
def maxNameLength : Nat := 65535

/-- Reads a header line. -/
def ofLine? (line : Bytes) : Option Header :=
  let name := line.takeWhile isToken
  match line.dropWhile isToken with
  | 0x3a :: value =>
    if name ≠ [] ∧ name.length ≤ maxNameLength ∧ value.all isPrintable then
      some ⟨Text.lower (asciiText name), trim value⟩
    else none
  | _ => none

/-- Reads header lines up to an empty line, and hands back what follows. -/
def readLines? : (fuel : Nat) → Bytes → Option (List Header × Bytes)
  | 0, _ => none
  | fuel + 1, bytes => do
    let (line, rest) ← takeLine? bytes
    if line = [] then some ([], rest)
    else
      let header ← ofLine? line
      let (headers, rest) ← readLines? fuel rest
      some (header :: headers, rest)

/-- Reads a block of header lines. -/
def readAll? (bytes : Bytes) : Option (List Header × Bytes) := readLines? (bytes.length + 1) bytes

/-- The values of the headers with a name. -/
def valuesOf (headers : List Header) (name : String) : List Bytes :=
  (headers.filter (·.name = name)).map (·.value)

/-- The text of a value, if it is plain: characters beyond ASCII have no meaning there. -/
def plainText? (value : Bytes) : Option String :=
  if value.all fun b => b < 0x7f && isPrintable b then some (asciiText value) else none

end Header

end SealedExchange.Http
