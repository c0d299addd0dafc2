import SealedExchange.Text.Basic

/-! # Moments as dates

A moment is a number of seconds since the beginning of 1970 in universal time. `dateOfDay` is the
Gregorian calendar, extended to all years; a year of the calculation runs from March to February,
so that the leap day is its last one.
-/

namespace SealedExchange.Time

/-- A date of the Gregorian calendar. -/
structure Date where
  year : Int
  month : Nat
  day : Nat
deriving DecidableEq, Repr

/-- The days in four hundred years. -/
def daysInEra : Int := 146097

/-- The days from the first of March of the year 0 to the beginning of 1970. -/
def daysBeforeEpoch : Int := 719468

/-- The year of an era that a day of the era falls into. -/
def yearOfEra (day : Nat) : Nat := (day - day / 1460 + day / 36524 - day / 146096) / 365

/-- The date of a day, counted from the beginning of 1970. -/
def dateOfDay (day : Int) : Date :=
  let shifted := day + daysBeforeEpoch
  let era := shifted.fdiv daysInEra
  let dayOfEra := (shifted.fmod daysInEra).toNat
  let year := yearOfEra dayOfEra
  let dayOfYear := dayOfEra - (365 * year + year / 4 - year / 100)
  let shiftedMonth := (5 * dayOfYear + 2) / 153
  let month := if shiftedMonth < 10 then shiftedMonth + 3 else shiftedMonth - 9
  { year := year + era * 400 + if month ≤ 2 then 1 else 0
    month
    day := dayOfYear - (153 * shiftedMonth + 2) / 5 + 1 }

/-- The years that have a written form. -/
def inRange (year : Int) : Bool := -262143 ≤ year && year ≤ 262142

/-- Decimal digits with zeros in front, at least as many as asked for. -/
def padded (width n : Nat) : String :=
  let digits := Text.decimal n
  String.ofList (List.replicate (width - digits.length) '0') ++ digits

/-- A year has four digits; one that needs more, or comes before the year 0, has a sign too. -/
def yearText (year : Int) : String :=
  if 0 ≤ year ∧ year ≤ 9999 then padded 4 year.toNat
  else (if year < 0 then "-" else "+") ++ padded 4 year.natAbs

/-- The written form of a moment: date, time of day and the offset of universal time. -/
def momentText? (seconds : Int) : Option String :=
  let date := dateOfDay (seconds.fdiv 86400)
  let time := (seconds.fmod 86400).toNat
  if inRange date.year then
    some (yearText date.year ++ "-" ++ padded 2 date.month ++ "-" ++ padded 2 date.day ++ "T" ++
      padded 2 (time / 3600) ++ ":" ++ padded 2 (time / 60 % 60) ++ ":" ++ padded 2 (time % 60) ++
      "+00:00")
  else none

end SealedExchange.Time
