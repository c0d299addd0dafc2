/-! # Trimming, cutting and comparing text

Blank characters are those with the Unicode property White_Space. Letter case matters only for
the 26 ASCII letters.
-/

namespace SealedExchange.Text

/-- The characters with the Unicode property White_Space. -/
def isBlank (c : Char) : Bool :=
  let n := c.toNat
  (9 ≤ n && n ≤ 13) || n = 0x20 || n = 0x85 || n = 0xa0 || n = 0x1680 ||
    (0x2000 ≤ n && n ≤ 0x200a) || n = 0x2028 || n = 0x2029 || n = 0x202f || n = 0x205f || n = 0x3000

/-- Drops the last characters for which a test holds. -/
def dropEndWhile (test : Char → Bool) (chars : List Char) : List Char :=
  (chars.reverse.dropWhile test).reverse

/-- Drops blank characters at both ends. -/
def trimChars (chars : List Char) : List Char :=
  dropEndWhile isBlank (chars.dropWhile isBlank)

/-- Drops blank characters at both ends of a text. -/
def trim (text : String) : String :=
  String.ofList (trimChars text.toList)

/-- Drops every slash at the end of a text. -/
def trimEndSlashes (text : String) : String :=
  String.ofList (dropEndWhile (· == '/') text.toList)

/-- Drops every slash at the start of a text. -/
def trimStartSlashes (text : String) : String :=
  String.ofList (text.toList.dropWhile (· == '/'))

/-- The ASCII capital letters become small. -/
def lowerChar (c : Char) : Char :=
  if 'A' ≤ c ∧ c ≤ 'Z' then Char.ofNat (c.toNat + 32) else c

/-- The ASCII small letters become capital. -/
def upperChar (c : Char) : Char :=
  if 'a' ≤ c ∧ c ≤ 'z' then Char.ofNat (c.toNat - 32) else c

/-- Replaces the ASCII capital letters of a text by small ones. -/
def lower (text : String) : String :=
  String.ofList (text.toList.map lowerChar)

/-- Replaces the ASCII small letters of a text by capital ones. -/
def upper (text : String) : String :=
  String.ofList (text.toList.map upperChar)

/-- Equality of texts up to the case of ASCII letters. -/
def sameIgnoringCase (a b : String) : Bool :=
  a.toList.map lowerChar == b.toList.map lowerChar

/-- Cuts at the first occurrence of a character, which is dropped. -/
def splitOnceChars (separator : Char) : List Char → Option (List Char × List Char)
  | [] => none
  | c :: rest =>
    if c = separator then some ([], rest)
    else (splitOnceChars separator rest).map fun parts => (c :: parts.1, parts.2)

/-- Cuts a text at the first occurrence of a character. -/
def splitOnce (separator : Char) (text : String) : Option (String × String) :=
  (splitOnceChars separator text.toList).map fun parts =>
    (String.ofList parts.1, String.ofList parts.2)

/-- Cuts at every occurrence of a character; there is one part more than occurrences. -/
def splitChars (separator : Char) : List Char → List (List Char)
  | [] => [[]]
  | c :: rest =>
    if c = separator then [] :: splitChars separator rest
    else match splitChars separator rest with
      | [] => [[c]]
      | part :: parts => (c :: part) :: parts

/-- Cuts a text at every occurrence of a character. -/
def split (separator : Char) (text : String) : List String :=
  (splitChars separator text.toList).map String.ofList

/-- Cuts at every line break, which is a carriage return with a line feed. -/
def lineChars : List Char → List (List Char)
  | [] => [[]]
  | '\r' :: '\n' :: rest => [] :: lineChars rest
  | c :: rest =>
    match lineChars rest with
    | [] => [[c]]
    | line :: lines => (c :: line) :: lines

/-- The lines of a text; there is one line more than line breaks. -/
def lines (text : String) : List String :=
  (lineChars text.toList).map String.ofList

/-- The maximal runs of characters that are not blank. -/
def wordChars : List Char → List (List Char)
  | [] => []
  | c :: rest =>
    if isBlank c then wordChars rest
    else match rest with
      | [] => [[c]]
      | d :: _ =>
        if isBlank d then [c] :: wordChars rest
        else match wordChars rest with
          | [] => [[c]]
          | word :: words => (c :: word) :: words

/-- The words of a text. -/
def words (text : String) : List String :=
  (wordChars text.toList).map String.ofList

/-- The text without a given beginning. -/
def dropStart? (start text : String) : Option String :=
  if start.toList.isPrefixOf text.toList then
    some (String.ofList (text.toList.drop start.length))
  else none

/-- Texts one after the other with a separator in between. -/
def join (separator : String) (texts : List String) : String :=
  String.ofList (separator.toList.intercalate (texts.map String.toList))

/-- The decimal digits of a number. -/
def decimal (n : Nat) : String := String.ofList (Nat.toDigits 10 n)

/-- The decimal digits of an integer, with a minus sign if it is negative. -/
def decimalInt (n : Int) : String :=
  match n with
  | .ofNat n => decimal n
  | .negSucc n => "-" ++ decimal (n + 1)

/-- Reads decimal digits, of which there must be one at least. -/
def readDecimal? (chars : List Char) : Option Nat :=
  if chars ≠ [] ∧ chars.all Char.isDigit then
    some (chars.foldl (fun acc c => acc * 10 + (c.toNat - 48)) 0)
  else none

/-- Reads decimal digits, before which a plus sign may stand. -/
def readNumber? (chars : List Char) : Option Nat :=
  match chars with
  | '+' :: digits => readDecimal? digits
  | digits => readDecimal? digits

end SealedExchange.Text
