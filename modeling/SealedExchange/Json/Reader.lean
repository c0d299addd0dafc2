import SealedExchange.Json.Value

/-! # Reading JSON in one pass

A reader consumes the beginning of a byte string. Typed readers check the form of a value while
they read it, so whichever comes first in the text, a syntax error or a value of the wrong type,
is the one reported. Loops run on the number of bytes left, which every turn makes smaller.

An error has a place. Most are found at the byte that is read or looked at. What is wrong with a
list or an object as a whole, such as a field that is missing, has its place behind the list or the
object, or as far as its end was looked for.
-/

namespace SealedExchange.Json

/-- An error while a document is being read. -/
structure Failure where
  error : Error
  /-- The input that was left where the error was found. -/
  rest : Bytes
  /-- Whether this is the place of the error. If not, the list or the object around it says
  where it is. -/
  placed : Bool

/-- Consumes the beginning of the input. -/
abbrev Reader (α : Type) := StateT Bytes (Except Failure) α

namespace Reader

/-- Refuses the input here. -/
def fail (e : Error) : Reader α := fun input => .error ⟨e, input, true⟩

/-- Refuses the next byte. -/
def failNext (e : Error) : Reader α := fun input => .error ⟨e, input.drop 1, true⟩

/-- Refuses the list or the object that is being read. -/
def refuse (e : Error) : Reader α := fun input => .error ⟨e, input, false⟩

/-- Gives an error without a place the place that follows from the input left. -/
def placedBy (place : Bytes → Bytes) (reader : Reader α) : Reader α := fun input =>
  (reader input).mapError fun f => if f.placed then f else ⟨f.error, place f.rest, true⟩

/-- Blanks between tokens. -/
def isBlank (b : UInt8) : Bool := b == 0x20 || b == 0x0a || b == 0x09 || b == 0x0d

/-- Tests for an ASCII digit. -/
def isDigit (b : UInt8) : Bool := 0x30 ≤ b && b ≤ 0x39

/-- Skips blanks and looks at the next byte. -/
def peek : Reader (Option UInt8) := fun input =>
  let rest := input.dropWhile isBlank
  .ok (rest.head?, rest)

/-- Looks at the next byte. -/
def look : Reader (Option UInt8) := fun input => .ok (input.head?, input)

/-- Drops the next byte. -/
def advance : Reader Unit := fun input => .ok ((), input.drop 1)

/-- Runs a reader that needs a bound on the number of its turns. -/
def bounded (run : Nat → Reader α) : Reader α := fun input => run (input.length + 1) input

/-- Reads the rest of a literal. -/
def literal : Bytes → Reader Unit
  | [] => pure ()
  | b :: rest => fun input =>
    match input with
    | [] => fail (.endOfInput .value) []
    | c :: after => if c = b then literal rest after else fail .expectedIdentifier after

/-! ## Numbers -/

/-- Adds digits to a significand as long as it fits 64 bits; also the number of digits left. -/
def accumulate (significand : Nat) : Bytes → Nat × Nat
  | [] => (significand, 0)
  | d :: rest =>
    let next := significand * 10 + (d.toNat - 48)
    if next < Bytes.count 8 then accumulate next rest else (significand, rest.length + 1)

/-- The powers of ten that divide and multiply exactly as far as doubles go. -/
def powerOfTen (n : Nat) : Float := Float.ofScientific 1 false n

/-- Scales a significand by a power of ten, in steps of at most 308 places. -/
def scaleFloat : (fuel : Nat) → Float → Int → Except Error Float
  | 0, f, _ => .ok f
  | fuel + 1, f, exponent =>
    if exponent.natAbs ≤ 308 then
      if 0 ≤ exponent then
        let scaled := f * powerOfTen exponent.natAbs
        if scaled.isInf then .error .numberOutOfRange else .ok scaled
      else .ok (f / powerOfTen exponent.natAbs)
    else if f == 0.0 then .ok f
    else if 0 ≤ exponent then .error .numberOutOfRange
    else scaleFloat fuel (f / powerOfTen 308) (exponent + 308)

/-- The number with a sign, a significand and an exponent of ten. -/
def floatOfParts (positive : Bool) (significand : Nat) (exponent : Int) : Reader Number :=
  match scaleFloat 8 (UInt64.ofNat significand).toFloat exponent with
  | .ok f => pure (.float (if positive then f else -f))
  | .error e => fail e

/-- Reads the digits that come next. -/
def digits : Reader Bytes := fun input =>
  .ok (input.takeWhile isDigit, input.dropWhile isDigit)

/-- The number of some digits, or the digits after the first one that leads beyond 31 bits. -/
def exponentOf (n : Nat) : Bytes → Except Bytes Nat
  | [] => .ok n
  | d :: rest =>
    let next := n * 10 + (d.toNat - 48)
    if next < 0x80000000 then exponentOf next rest else .error rest

/-- Reads the exponent of a number, after its letter. -/
def exponentPart (positive : Bool) (significand : Nat) (start : Int) : Reader Number := do
  let sign ← look
  if sign = some 0x2b ∨ sign = some 0x2d then advance
  let positiveExponent := sign ≠ some 0x2d
  let ds ← digits
  if ds.isEmpty then
    match ← look with
    | none => fail (.endOfInput .value)
    | some _ => failNext .invalidNumber
  else match exponentOf 0 ds with
    | .error left =>
      if significand ≠ 0 ∧ positiveExponent then fun input => fail .numberOutOfRange (left ++ input)
      else pure (.float (if positive then 0.0 else -0.0))
    | .ok exponent =>
      floatOfParts positive significand
        (if positiveExponent then min (start + (exponent : Int)) 0x7fffffff
        else max (start - (exponent : Int)) (-0x80000000))

/-- Reads what follows the digits of a decimal fraction. -/
def fractionEnd (positive : Bool) (significand : Nat) (exponent : Int) : Reader Number := do
  match ← look with
  | some b =>
    if b = 0x65 ∨ b = 0x45 then do advance; exponentPart positive significand exponent
    else floatOfParts positive significand exponent
  | none => floatOfParts positive significand exponent

/-- Reads the places after the point. -/
def fractionPart (positive : Bool) (significand : Nat) (start : Int) : Reader Number := do
  let ds ← digits
  if ds.isEmpty then
    match ← look with
    | none => fail (.endOfInput .value)
    | some _ => failNext .invalidNumber
  else
    let (significand, left) := accumulate significand ds
    fractionEnd positive significand (start - (ds.length - left : Nat))

/-- A number without point and exponent. Zero with a minus sign, and a negative number below the
64-bit range, are not whole numbers. -/
def wholeNumber (positive : Bool) (n : Nat) : Number :=
  if positive then .natural n
  else if n = 0 ∨ n > 0x8000000000000000 then .float (-(UInt64.ofNat n).toFloat)
  else .negative (-(n : Int))

/-- Reads what follows the whole digits of a number. -/
def afterWhole (positive : Bool) (significand left : Nat) : Reader Number := do
  match ← look with
  | some 0x2e => do advance; fractionPart positive significand left
  | some 0x65 => do advance; exponentPart positive significand left
  | some 0x45 => do advance; exponentPart positive significand left
  | _ =>
    if left = 0 then pure (wholeNumber positive significand)
    else floatOfParts positive significand left

/-- Reads a number after its sign. No digit follows a zero at the beginning. -/
def number (positive : Bool) : Reader Number := do
  match ← look with
  | none => fail (.endOfInput .value)
  | some b =>
    if b = 0x30 then do
      advance
      match ← look with
      | some c => if isDigit c then failNext .invalidNumber else afterWhole positive 0 0
      | none => afterWhole positive 0 0
    else if isDigit b then do
      let ds ← digits
      let (significand, left) := accumulate 0 ds
      afterWhole positive significand left
    else failNext .invalidNumber

/-! ## Strings -/

/-- The number of four hexadecimal digits. -/
def hexNumber? (ds : Bytes) : Option Nat :=
  ds.foldl (fun acc d =>
    match acc, Bytes.hexValue? (Char.ofNat d.toNat) with
    | some n, some v => some (16 * n + v)
    | _, _ => none) (some 0)

/-- Reads four hexadecimal digits. -/
def hexEscape : Reader Nat := fun input =>
  if input.length < 4 then fail (.endOfInput .string) []
  else match hexNumber? (input.take 4) with
    | some n => .ok (n, input.drop 4)
    | none => fail .invalidEscape (input.drop 4)

/-- Reads a byte of the second half of a pair. -/
def pairByte (b : UInt8) : Reader Unit := do
  match ← look with
  | none => fail (.endOfInput .string)
  | some c => if c = b then advance else failNext .shortHexEscape

/-- Reads an escaped code point after its letter; one beyond the basic plane is a pair. -/
def unicodeEscape : Reader Bytes := do
  let n ← hexEscape
  if 0xdc00 ≤ n ∧ n ≤ 0xdfff then fail .loneSurrogate
  else if n < 0xd800 ∨ 0xdbff < n then pure (String.utf8EncodeChar (Char.ofNat n))
  else
    -- The first half of a pair must have the second half right behind it.
    pairByte 0x5c
    pairByte 0x75
    let m ← hexEscape
    if m < 0xdc00 ∨ 0xdfff < m then fail .loneSurrogate
    else
      pure (String.utf8EncodeChar (Char.ofNat ((n - 0xd800) * 1024 + (m - 0xdc00) + 0x10000)))

/-- The byte that a letter stands for after a backslash. -/
def simpleEscape? (b : UInt8) : Option UInt8 :=
  if b = 0x22 ∨ b = 0x5c ∨ b = 0x2f then some b
  else if b = 0x62 then some 0x08
  else if b = 0x66 then some 0x0c
  else if b = 0x6e then some 0x0a
  else if b = 0x72 then some 0x0d
  else if b = 0x74 then some 0x09
  else none

/-- Reads what follows a backslash, given what to do with a code point. -/
def escapeWith (codePoint : Reader Bytes) : Reader Bytes := fun input =>
  match input with
  | [] => fail (.endOfInput .string) []
  | b :: rest =>
    match simpleEscape? b with
    | some c => .ok ([c], rest)
    | none => if b = 0x75 then codePoint rest else fail .invalidEscape rest

/-- Reads a string up to its closing quote: its bytes. -/
def stringBytes : (fuel : Nat) → Reader Bytes
  | 0 => fail (.endOfInput .string)
  | fuel + 1 => fun input =>
    match input with
    | [] => fail (.endOfInput .string) []
    | b :: rest =>
      if b = 0x22 then .ok ([], rest)
      else if b = 0x5c then do
        let (bytes, rest) ← escapeWith unicodeEscape rest
        let (more, rest) ← stringBytes fuel rest
        .ok (bytes ++ more, rest)
      else if b < 0x20 then fail .controlCharacter rest
      else do
        let (more, rest) ← stringBytes fuel rest
        .ok (b :: more, rest)

/-- Reads a string after its opening quote. -/
def stringBody : Reader String := do
  let bytes ← bounded stringBytes
  match Text.Utf8.decode bytes with
  | .ok text => pure text
  | .error _ => fail .invalidCodePoint

/-- Skips a string up to its closing quote without looking at what its escapes stand for. -/
def skipStringBytes : (fuel : Nat) → Reader Unit
  | 0 => fail (.endOfInput .string)
  | fuel + 1 => fun input =>
    match input with
    | [] => fail (.endOfInput .string) []
    | b :: rest =>
      if b = 0x22 then .ok ((), rest)
      else if b = 0x5c then do
        let (_, rest) ← escapeWith (do let _ ← hexEscape; pure []) rest
        skipStringBytes fuel rest
      else if b < 0x20 then fail .controlCharacter input
      else skipStringBytes fuel rest

/-- Skips a string after its opening quote. -/
def skipString : Reader Unit := bounded skipStringBytes

/-! ## Lists and objects -/

/-- Tests whether another item of a list follows, and steps over the comma before it. -/
def nextItem (first : Bool) : Reader Bool := do
  match ← peek with
  | none => fail (.endOfInput .list)
  | some b =>
    if b = 0x5d then pure false
    else if b = 0x2c ∧ !first then do
      advance
      match ← peek with
      | none => fail (.endOfInput .value)
      | some c => if c = 0x5d then failNext .trailingComma else pure true
    else if first then pure true
    else failNext (.expectedCommaOrEnd .list)

/-- Reads the end of a list. -/
def endList : Reader Unit := do
  match ← peek with
  | none => fail (.endOfInput .list)
  | some b =>
    if b = 0x5d then advance
    else if b = 0x2c then do
      advance
      match ← peek with
      | some c => if c = 0x5d then failNext .trailingComma else failNext .trailingCharacters
      | none => failNext .trailingCharacters
    else failNext .trailingCharacters

/-- Reads the name of the next member of an object, if there is one, and its colon. -/
def nextName (first : Bool) : Reader (Option String) := do
  match ← peek with
  | none => fail (.endOfInput .object)
  | some b =>
    if b = 0x7d then pure none
    else if b = 0x2c ∧ !first then do
      advance
      match ← peek with
      | none => fail (.endOfInput .value)
      | some c =>
        if c = 0x22 then do
          advance
          let name ← stringBody
          pure (some name)
        else if c = 0x7d then failNext .trailingComma
        else failNext .keyNotString
    else if first then
      if b = 0x22 then do
        advance
        let name ← stringBody
        pure (some name)
      else failNext .keyNotString
    else failNext (.expectedCommaOrEnd .object)

/-- Reads the colon after a name. -/
def colon : Reader Unit := do
  match ← peek with
  | none => fail (.endOfInput .object)
  | some b => if b = 0x3a then advance else failNext .expectedColon

/-- Reads the end of an object. -/
def endObject : Reader Unit := do
  match ← peek with
  | none => fail (.endOfInput .object)
  | some b =>
    if b = 0x7d then advance
    else if b = 0x2c then failNext .trailingComma
    else failNext .trailingCharacters

/-- What is left of a list that is refused: its end is stepped over if it comes next, and a comma
with it. -/
def afterList (rest : Bytes) : Bytes :=
  match rest.dropWhile isBlank with
  | [] => []
  | b :: rest =>
    if b = 0x5d then rest
    else if b = 0x2c then rest.dropWhile isBlank
    else b :: rest

/-- What is left of an object that is refused: its end is stepped over if it comes next. -/
def afterObject (rest : Bytes) : Bytes :=
  match rest.dropWhile isBlank with
  | [] => []
  | b :: rest => if b = 0x7d then rest else b :: rest

/-- Reads the items of a list up to its end. -/
def items (item : Reader α) : (fuel : Nat) → (first : Bool) → Reader (List α)
  | 0, _ => fail (.endOfInput .list)
  | fuel + 1, first => do
    if ← nextItem first then
      let a ← item
      let rest ← items item fuel false
      pure (a :: rest)
    else pure []

/-- Reads the members of an object up to its end, each by its name and what was read before. -/
def members (member : σ → String → Reader σ) : (fuel : Nat) → (first : Bool) → σ → Reader σ
  | 0, _, _ => fail (.endOfInput .object)
  | fuel + 1, first, s => do
    match ← nextName first with
    | none => pure s
    | some name => do
      let s ← member s name
      members member fuel false s

/-! ## Values of a known form -/

/-- Refuses the next value because something else is expected there. What the value is, the error
says, unless the value is malformed itself. -/
def unexpected (expected : String) : Reader α := do
  match ← peek with
  | none => fail (.endOfInput .value)
  | some b =>
    let reject (found : Found) : Reader α := fail (.invalidType found expected)
    if b = 0x6e then do advance; literal (ascii "ull"); reject .null
    else if b = 0x74 then do advance; literal (ascii "rue"); reject (.bool true)
    else if b = 0x66 then do advance; literal (ascii "alse"); reject (.bool false)
    else if b = 0x2d then do advance; let n ← number false; reject n.found
    else if isDigit b then do let n ← number true; reject n.found
    else if b = 0x22 then do advance; let s ← stringBody; reject (.text s)
    -- A list or an object is refused at its bracket, before its contents.
    else if b = 0x5b then reject .sequence
    else if b = 0x7b then reject .map
    else failNext .expectedValue

/-- Reads a whole number below a bound. -/
def natBelow (bound : Nat) (expected : String) : Reader Nat := do
  let check (n : Number) : Reader Nat :=
    match n with
    | .natural n => if n < bound then pure n else fail (.invalidValue (.natural n) expected)
    | .negative n => fail (.invalidValue (.negative n) expected)
    | .float x => fail (.invalidType (.float x) expected)
  match ← peek with
  | none => fail (.endOfInput .value)
  | some b =>
    if b = 0x2d then do advance; let n ← number false; check n
    else if isDigit b then do let n ← number true; check n
    else unexpected expected

/-- Reads a byte as a number. -/
def byte : Reader UInt8 := do
  let n ← natBelow 256 "u8"
  pure (UInt8.ofNat n)

/-- Reads a string. -/
def text (expected : String) : Reader String := do
  match ← peek with
  | some 0x22 => do advance; stringBody
  | _ => unexpected expected

/-- Reads nothing or a value. -/
def option (value : Reader α) : Reader (Option α) := do
  match ← peek with
  | some 0x6e => do advance; literal (ascii "ull"); pure none
  | _ => do let a ← value; pure (some a)

/-- Reads a list between its brackets, or refuses what is no list. -/
def inList (expected : String) (body : Reader α) : Reader α := do
  match ← peek with
  | some 0x5b => do
    advance
    let a ← placedBy afterList body
    endList
    pure a
  | _ => unexpected expected

/-- Reads a list of any length. -/
def list (item : Reader α) : Reader (List α) :=
  inList "a sequence" (bounded fun fuel => items item fuel true)

/-- Reads the item of a list at a given place, which must be there. -/
def itemAt (place : Nat) (expected : String) (item : Reader α) : Reader α := do
  if ← nextItem (place = 0) then item else refuse (.invalidLength place expected)

/-- Reads the item of a list at a given place, for which there is a substitute. -/
def itemOr (place : Nat) (substitute : α) (item : Reader α) : Reader α := do
  if ← nextItem (place = 0) then item else pure substitute

/-- Reads the items of a list from a given place on. -/
def itemsFrom (expected : String) (item : Reader α) (total : Nat) : (left : Nat) → Reader (List α)
  | 0 => pure []
  | left + 1 => do
    let a ← itemAt (total - (left + 1)) expected item
    let rest ← itemsFrom expected item total left
    pure (a :: rest)

/-- Reads a list of a fixed length. -/
def exactly (length : Nat) (item : Reader α) : Reader (List α) :=
  let expected := "an array of length " ++ Text.decimal length
  inList expected (itemsFrom expected item length length)

/-- Reads an object between its braces. -/
def inObject (body : Reader α) : Reader α := do
  advance
  let a ← placedBy afterObject body
  endObject
  pure a

/-- Reads a record in either of its forms: a list of its fields in order, or an object. -/
def record (expected : String) (fields : Reader α) (object : Reader α) : Reader α := do
  match ← peek with
  | some 0x5b => inList expected fields
  | some 0x7b => inObject object
  | _ => unexpected expected

/-- Reads a field that may not have been read before. -/
def once (name : String) (seen : Option α) (value : Reader α) : Reader (Option α) := do
  match seen with
  | some _ => refuse (.duplicateField name)
  | none => do
    colon
    let a ← value
    pure (some a)

/-- The value of a field that must be there. -/
def required (name : String) : Option α → Reader α
  | some a => pure a
  | none => refuse (.missingField name)

/-! ## Values of any form -/

/-- Where the skipping of a value stands. -/
inductive Skipping
  | value
  | opened
  | closed

/-- Skips the places of a number after its point or its letter. -/
def skipExponent : Reader Unit := do
  let sign ← look
  if sign = some 0x2b ∨ sign = some 0x2d then advance
  let ds ← digits
  if ds.isEmpty then failNext .invalidNumber

/-- Skips what follows the whole digits of a number. -/
def skipAfterWhole : Reader Unit := do
  match ← look with
  | some 0x2e => do
    advance
    let places ← digits
    if places.isEmpty then failNext .invalidNumber
    match ← look with
    | some 0x65 => do advance; skipExponent
    | some 0x45 => do advance; skipExponent
    | _ => pure ()
  | some 0x65 => do advance; skipExponent
  | some 0x45 => do advance; skipExponent
  | _ => pure ()

/-- Skips a number after its sign. -/
def skipNumber : Reader Unit := do
  match ← look with
  | none => fail .invalidNumber
  | some b =>
    if b = 0x30 then do
      advance
      match ← look with
      | some c => if isDigit c then failNext .invalidNumber else skipAfterWhole
      | none => skipAfterWhole
    else if isDigit b then do
      let _ ← digits
      skipAfterWhole
    else failNext .invalidNumber

/-- Skips the name and the colon of a member. -/
def skipName : Reader Unit := do
  match ← peek with
  | none => fail (.endOfInput .object)
  | some b =>
    if b = 0x22 then do
      advance
      skipString
      match ← peek with
      | none => fail (.endOfInput .object)
      | some c => if c = 0x3a then advance else failNext .expectedColon
    else failNext .keyNotString

/-- What stands around the place that is being skipped: true for an object, false for a list. -/
abbrev Frames := List Bool

/-- Skips the beginning of a value, given what stands around it. -/
def skipStep (stage : Skipping) (frames : Frames) : Reader (Skipping × Frames) := do
  match stage with
  | .value =>
    match ← peek with
    | none => fail (.endOfInput .value)
    | some b =>
      if b = 0x6e then do advance; literal (ascii "ull"); pure (.closed, frames)
      else if b = 0x74 then do advance; literal (ascii "rue"); pure (.closed, frames)
      else if b = 0x66 then do advance; literal (ascii "alse"); pure (.closed, frames)
      else if b = 0x2d then do advance; skipNumber; pure (.closed, frames)
      else if isDigit b then do skipNumber; pure (.closed, frames)
      else if b = 0x22 then do advance; skipString; pure (.closed, frames)
      else if b = 0x5b then do advance; pure (.opened, false :: frames)
      else if b = 0x7b then do advance; pure (.opened, true :: frames)
      else failNext .expectedValue
  | .opened | .closed =>
    match frames with
    | [] => pure (.closed, [])
    | frame :: outer =>
      let inside : Inside := if frame then .object else .list
      match ← peek with
      | none => fail (.endOfInput inside)
      | some b =>
        if b = (if frame then 0x7d else 0x5d) then do advance; pure (.closed, outer)
        else
          let entered := match stage with | .opened => true | _ => false
          if !entered ∧ b ≠ 0x2c then failNext (.expectedCommaOrEnd inside)
          else do
            if !entered then advance
            if frame then skipName
            pure (.value, frames)

/-- Skips until nothing stands around the place any more. -/
def skipLoop : (fuel : Nat) → Skipping → Frames → Reader Unit
  | 0, _, _ => fail (.endOfInput .value)
  | fuel + 1, stage, frames => do
    let (stage, frames) ← skipStep stage frames
    match stage, frames with
    | .closed, [] => pure ()
    | _, _ => skipLoop fuel stage frames

/-- Skips a value of any form. -/
def skipValue : Reader Unit := bounded fun fuel => skipLoop (2 * fuel) .value []

/-- Skips a member that nobody asked for. -/
def skipMember : Reader Unit := do
  colon
  skipValue

/-- Reads a value of any form, given readers for lists and objects. -/
def valueWith (list object : Reader Value) : Reader Value := do
  match ← peek with
  | none => fail (.endOfInput .value)
  | some b =>
    if b = 0x6e then do advance; literal (ascii "ull"); pure .null
    else if b = 0x74 then do advance; literal (ascii "rue"); pure (.bool true)
    else if b = 0x66 then do advance; literal (ascii "alse"); pure (.bool false)
    else if b = 0x2d then do advance; let n ← number false; pure (.number n)
    else if isDigit b then do let n ← number true; pure (.number n)
    else if b = 0x22 then do advance; let s ← stringBody; pure (.string s)
    else if b = 0x5b then list
    else if b = 0x7b then object
    else failNext .expectedValue

/-- Reads a value in which lists and objects are nested at most a number of levels deep. -/
def value : (levels : Nat) → Reader Value
  | 0 => valueWith (failNext .tooDeep) (failNext .tooDeep)
  | levels + 1 =>
    valueWith
      (do
        advance
        let found ← bounded fun fuel => items (value levels) fuel true
        endList
        pure (.array found))
      (inObject do
        let found ← bounded fun fuel => members (fun found name => do
          colon
          let v ← value levels
          pure ((name, v) :: found)) fuel true []
        pure (.object found.reverse))

/-- Reads a whole document. -/
def run (reader : Reader α) (input : Bytes) : Except Fault α :=
  match reader input with
  | .error f => .error ⟨f.error, Place.between input f.rest⟩
  | .ok (a, rest) =>
    match rest.dropWhile isBlank with
    | [] => .ok a
    | _ :: left => .error ⟨.trailingCharacters, Place.between input left⟩

end Reader

end SealedExchange.Json
