import SealedExchange.Bytes
import SealedExchange.Text.Basic

/-! # Writing TOML

Strings, arrays and assignments as a person would write them: a string takes the quotes that need
the fewest escapes, and an array has one item a line.
-/

namespace SealedExchange.Toml

/-- The upper-case hexadecimal digits of a code point, four at least. -/
def codePointDigits (c : Char) : List Char :=
  let bytes := Bytes.ofNatBE 2 c.toNat
  (Bytes.hexChars bytes).map Text.upperChar

/-- A character between double quotes. -/
def escapedChar (c : Char) : List Char :=
  if c = '"' then ['\\', '"']
  else if c = '\\' then ['\\', '\\']
  else if c = '\x08' then ['\\', 'b']
  else if c = '\t' then ['\\', 't']
  else if c = '\n' then ['\\', 'n']
  else if c = '\x0c' then ['\\', 'f']
  else if c = '\r' then ['\\', 'r']
  else if c.toNat < 0x20 ∨ c.toNat = 0x7f then '\\' :: 'u' :: codePointDigits c
  else [c]

/-- Tests whether a string is easier to read between single quotes. -/
def prefersLiteral (chars : List Char) : Bool :=
  (chars.any fun c => c = '"' || c = '\\') &&
    chars.all fun c => c ≠ '\'' && 0x20 ≤ c.toNat && c.toNat ≠ 0x7f

/-- A string with its quotes. -/
def renderString (text : String) : String :=
  let chars := text.toList
  if prefersLiteral chars then "'" ++ text ++ "'"
  else "\"" ++ String.ofList (chars.flatMap escapedChar) ++ "\""

/-- An array of strings. -/
def renderStrings (texts : List String) : String :=
  if texts.isEmpty then "[]"
  else "[\n" ++ String.join (texts.map fun t => "    " ++ renderString t ++ ",\n") ++ "]"

/-- An assignment on a line of its own. -/
def assignment (key value : String) : String := key ++ " = " ++ value ++ "\n"

/-- A table under its header. -/
def titled (name : String) (lines : List String) : String :=
  "[" ++ name ++ "]\n" ++ String.join lines

end SealedExchange.Toml
