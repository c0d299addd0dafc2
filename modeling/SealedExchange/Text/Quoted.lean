import SealedExchange.Text.Basic
import SealedExchange.Text.Printable

/-! # Quoted text

A text between double quotes, with a backslash before quotes and backslashes, short names for the
usual control characters, and the code point of every other character that does not show.
-/

namespace SealedExchange.Text

/-- The lower-case hexadecimal digits of a number. -/
def hexadecimal (n : Nat) : String := String.ofList (Nat.toDigits 16 n)

/-- A character as it stands between the quotes. -/
def quotedChar (c : Char) : String :=
  if c = '"' then "\\\""
  else if c = '\\' then "\\\\"
  else if c = '\n' then "\\n"
  else if c = '\r' then "\\r"
  else if c = '\t' then "\\t"
  else if c = '\x00' then "\\0"
  else if isPrintable c then c.toString
  else "\\u\x7b" ++ hexadecimal c.toNat ++ "\x7d"

/-- A text in quotes. -/
def quoted (text : String) : String :=
  "\"" ++ join "" (text.toList.map quotedChar) ++ "\""

end SealedExchange.Text
