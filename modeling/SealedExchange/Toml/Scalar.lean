import SealedExchange.Toml.Value

/-! # Numbers, dates and truth values

Values that are written without quotes and brackets, read from the characters they consist of. A
number may have single underscores between its digits.
-/

namespace SealedExchange.Toml

namespace Scalar

/-- The digits of a number without the underscores between them, if they stand only there. -/
def ungroup (isDigit : Char → Bool) : List Char → Option (List Char)
  | [] => none
  | [c] => if isDigit c then some [c] else none
  | c :: '_' :: rest => if isDigit c then (ungroup isDigit rest).map (c :: ·) else none
  | c :: rest => if isDigit c then (ungroup isDigit rest).map (c :: ·) else none

/-- The value of digits in a base. -/
def ofDigits (base : Nat) (digits : List Char) : Nat :=
  digits.foldl (fun acc c =>
    acc * base +
      (if c.isDigit then c.toNat - 48 else (Text.lowerChar c).toNat - 87)) 0

/-- Tests for a hexadecimal digit of either case. -/
def isHexDigit (c : Char) : Bool :=
  c.isDigit || ('a' ≤ c && c ≤ 'f') || ('A' ≤ c && c ≤ 'F')

/-- Splits off a sign; true stands for minus. -/
def splitSign : List Char → Bool × List Char
  | '-' :: rest => (true, rest)
  | '+' :: rest => (false, rest)
  | rest => (false, rest)

/-- The digits of a decimal number without sign, which has no zeros in front. -/
def decimalDigits (chars : List Char) : Option (List Char) := do
  let digits ← ungroup Char.isDigit chars
  match digits with
  | '0' :: _ :: _ => none
  | _ => some digits

/-- An integer within 64 bits. -/
def bounded (n : Int) : Option Value :=
  if -0x8000000000000000 ≤ n ∧ n < 0x8000000000000000 then some (.integer n) else none

/-- An integer. -/
def integer? : List Char → Option Value
  | '0' :: 'x' :: rest => do bounded (ofDigits 16 (← ungroup isHexDigit rest) : Nat)
  | '0' :: 'o' :: rest => do
    bounded (ofDigits 8 (← ungroup (fun c => '0' ≤ c && c ≤ '7') rest) : Nat)
  | '0' :: 'b' :: rest => do
    bounded (ofDigits 2 (← ungroup (fun c => c = '0' || c = '1') rest) : Nat)
  | chars => do
    let (negative, rest) := splitSign chars
    let n : Int := (ofDigits 10 (← decimalDigits rest) : Nat)
    bounded (if negative then -n else n)

/-- The exponent of a number, after its letter. -/
def exponent? (chars : List Char) : Option Int := do
  let (negative, rest) := splitSign chars
  let n : Int := (ofDigits 10 (← ungroup Char.isDigit rest) : Nat)
  some (if negative then -n else n)

/-- A decimal fraction `± digits * 10 ^ exponent`. -/
structure Fraction where
  negative : Bool
  digits : List Char
  exponent : Int

/-- A number with a point or an exponent. -/
def fraction? (chars : List Char) : Option Fraction := do
  let isMark (c : Char) := c = 'e' || c = 'E'
  let isEnd (c : Char) := c = '.' || isMark c
  let (negative, rest) := splitSign chars
  let whole ← decimalDigits (rest.takeWhile (!isEnd ·))
  match rest.dropWhile (!isEnd ·) with
  | [] => none
  | '.' :: rest => do
    let places ← ungroup Char.isDigit (rest.takeWhile (!isMark ·))
    let exponent ← match rest.dropWhile (!isMark ·) with
      | [] => some 0
      | _ :: rest => exponent? rest
    some ⟨negative, whole ++ places, exponent - places.length⟩
  | _ :: rest => do
    let exponent ← exponent? rest
    some ⟨negative, whole, exponent⟩

/-- The least number that is closer to two to the power of 1024 than to the largest double, or as
close. -/
def beyondDoubles : Nat := Nat.pow 2 1024 - Nat.pow 2 970

/-- Tests whether the amount of a fraction is too large for a double. -/
def Fraction.isTooLarge (f : Fraction) : Bool :=
  let digits := f.digits.dropWhile (· = '0')
  let n := ofDigits 10 digits
  -- The number of places before the point decides all but the close cases.
  let places : Int := digits.length + f.exponent
  if n = 0 ∨ places < 300 then false
  else if 320 < places then true
  else if 0 ≤ f.exponent then beyondDoubles ≤ n * Nat.pow 10 f.exponent.toNat
  else beyondDoubles * Nat.pow 10 (-f.exponent).toNat ≤ n

/-- Tests for a floating-point number. Too large a number that is not negative is none. -/
def isFloat (chars : List Char) : Bool :=
  let rest := (splitSign chars).2
  rest = ['i', 'n', 'f'] || rest = ['n', 'a', 'n'] ||
    (fraction? chars).any fun f => f.negative || !f.isTooLarge

/-- A number of two digits. -/
def twoDigits? : List Char → Option (Nat × List Char)
  | a :: b :: rest =>
    if a.isDigit && b.isDigit then some (ofDigits 10 [a, b], rest) else none
  | _ => none

/-- Tests for a leap year. -/
def isLeapYear (year : Nat) : Bool := year % 4 = 0 && (year % 100 ≠ 0 || year % 400 = 0)

/-- The number of days in a month. -/
def daysIn (year month : Nat) : Nat :=
  if month = 2 then (if isLeapYear year then 29 else 28)
  else if month = 4 ∨ month = 6 ∨ month = 9 ∨ month = 11 then 30
  else 31

/-- What follows a date. -/
def afterDate? (chars : List Char) : Option (List Char) := do
  let (century, rest) ← twoDigits? chars
  let (year, rest) ← twoDigits? rest
  match rest with
  | '-' :: rest => do
    let (month, rest) ← twoDigits? rest
    match rest with
    | '-' :: rest => do
      let (day, rest) ← twoDigits? rest
      if 1 ≤ month ∧ month ≤ 12 ∧ 1 ≤ day ∧ day ≤ daysIn (100 * century + year) month then
        some rest
      else none
    | _ => none
  | _ => none

/-- What follows a time of day. -/
def afterTime? (chars : List Char) : Option (List Char) := do
  let (hour, rest) ← twoDigits? chars
  match rest with
  | ':' :: rest => do
    let (minute, rest) ← twoDigits? rest
    match rest with
    | ':' :: rest => do
      let (second, rest) ← twoDigits? rest
      if 23 < hour ∨ 59 < minute ∨ 60 < second then none
      else
        match rest with
        | '.' :: rest =>
          if (rest.takeWhile Char.isDigit).isEmpty then none
          else some (rest.dropWhile Char.isDigit)
        | rest => some rest
    | _ => none
  | _ => none

/-- Tests for nothing or an offset from universal time. -/
def isOffset : List Char → Bool
  | [] => true
  | ['Z'] => true
  | ['z'] => true
  | sign :: rest =>
    (sign = '+' || sign = '-') &&
      match twoDigits? rest with
      | some (hour, ':' :: rest) =>
        match twoDigits? rest with
        | some (minute, []) => hour ≤ 23 && minute ≤ 59
        | _ => false
      | _ => false

/-- Tests for a time of day, which may have an offset. -/
def isTimeWithOffset (chars : List Char) : Bool := (afterTime? chars).any isOffset

/-- Tests for a date alone. -/
def isDate (chars : List Char) : Bool := afterDate? chars = some []

/-- Tests for a date, a time, or a date and a time with a letter in between. -/
def isDatetime (chars : List Char) : Bool :=
  afterTime? chars = some [] ||
    match afterDate? chars with
    | some [] => true
    | some (c :: rest) => (c = 'T' || c = 't') && isTimeWithOffset rest
    | none => false

/-- The value that is written with some characters. -/
def ofChars? (chars : List Char) : Option Value :=
  if chars = ['t', 'r', 'u', 'e'] then some (.boolean true)
  else if chars = ['f', 'a', 'l', 's', 'e'] then some (.boolean false)
  else if isDatetime chars then some (.datetime (String.ofList chars))
  else if isFloat chars then some (.float (String.ofList chars))
  else integer? chars

end Scalar

end SealedExchange.Toml
