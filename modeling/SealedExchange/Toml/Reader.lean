import SealedExchange.Toml.Scalar

/-! # Reading TOML

A document is read line by line: values, and headers that say which table the values after them
belong to. A document that breaks a rule has no reading. Loops run on the number of characters
left, and values are nested at most `maxDepth` deep.
-/

namespace SealedExchange.Toml

/-- Consumes the beginning of a text. -/
abbrev Reader (α : Type) := StateT (List Char) Option α

namespace Reader

/-- Values are nested less deep than this, and paths are shorter. -/
def maxDepth : Nat := 80

/-- Refuses the text. -/
def fail : Reader α := fun _ => none

/-- Looks at the next character. -/
def look : Reader (Option Char) := fun input => some (input.head?, input)

/-- Takes the next character. -/
def next : Reader Char
  | [] => none
  | c :: rest => some (c, rest)

/-- Drops the next character. -/
def advance : Reader Unit := fun input => some ((), input.drop 1)

/-- Takes characters as long as a test holds. -/
def takeWhile (test : Char → Bool) : Reader (List Char) := fun input =>
  some (input.takeWhile test, input.dropWhile test)

/-- Takes a character that must come next. -/
def char (c : Char) : Reader Unit := do
  if (← next) = c then pure () else fail

/-- Takes a text if it comes next. -/
def tryText (text : List Char) : Reader Bool := fun input =>
  if text.isPrefixOf input then some (true, input.drop text.length) else some (false, input)

/-- Runs a reader that needs a bound on the number of its turns. -/
def bounded (run : Nat → Reader α) : Reader α := fun input => run (input.length + 1) input

/-- Tests for a blank within a line. -/
def isBlank (c : Char) : Bool := c = ' ' || c = '\t'

/-- Skips blanks. -/
def blanks : Reader Unit := do let _ ← takeWhile isBlank

/-- Takes a line break if one comes next. -/
def tryLineBreak : Reader Bool := fun input =>
  match input with
  | '\n' :: rest => some (true, rest)
  | '\r' :: '\n' :: rest => some (true, rest)
  | _ => some (false, input)

/-- Tests for a character that may stand in a comment or a string: no control character but the
tabulator. -/
def isTextChar (c : Char) : Bool := c = '\t' || (0x20 ≤ c.toNat && c.toNat ≠ 0x7f)

/-- Skips a comment if one comes next. -/
def comment : Reader Unit := do
  match ← look with
  | some '#' => do let _ ← takeWhile isTextChar
  | _ => pure ()

/-- Skips blanks, line breaks and comments. -/
def gap : (fuel : Nat) → Reader Unit
  | 0 => pure ()
  | fuel + 1 => do
    blanks
    comment
    if ← tryLineBreak then gap fuel

/-! ## Strings -/

/-- The value of a hexadecimal digit of either case. -/
def hexValue? (c : Char) : Option Nat :=
  if Scalar.isHexDigit c then some (Scalar.ofDigits 16 [c]) else none

/-- Reads a code point with a number of hexadecimal digits. -/
def codePoint : (digits : Nat) → (acc : Nat) → Reader Char
  | 0, acc => if acc.isValidChar then pure (Char.ofNat acc) else fail
  | digits + 1, acc => do
    match hexValue? (← next) with
    | some v => codePoint digits (16 * acc + v)
    | none => fail

/-- Reads what follows a backslash. -/
def escape : Reader Char := do
  match ← next with
  | 'b' => pure '\x08'
  | 't' => pure '\t'
  | 'n' => pure '\n'
  | 'f' => pure '\x0c'
  | 'r' => pure '\r'
  | '"' => pure '"'
  | '\\' => pure '\\'
  | 'u' => codePoint 4 0
  | 'U' => codePoint 8 0
  | _ => fail

/-- Reads a string of one line up to its closing quote. Only double quotes admit escapes. -/
def lineString (quote : Char) : (fuel : Nat) → Reader (List Char)
  | 0 => fail
  | fuel + 1 => do
    let c ← next
    if c = quote then pure []
    else if c = '\\' ∧ quote = '"' then do
      let e ← escape
      let rest ← lineString quote fuel
      pure (e :: rest)
    else if isTextChar c then do
      let rest ← lineString quote fuel
      pure (c :: rest)
    else fail

/-- Takes up to five quotes. -/
def quoteRun (quote : Char) : Reader Nat := fun input =>
  let n := min 5 (input.takeWhile (· = quote)).length
  some (n, input.drop n)

/-- Tests whether the rest of the line is blank. -/
def atLineEnd : Reader Bool := fun input =>
  let rest := input.dropWhile isBlank
  some (rest.head? = some '\n' || rest.take 2 = ['\r', '\n'], input)

/-- Skips blanks and line breaks. -/
def blankLines : (fuel : Nat) → Reader Unit
  | 0 => pure ()
  | fuel + 1 => do
    blanks
    if ← tryLineBreak then blankLines fuel

/-- Reads a string of several lines up to its three closing quotes, before which up to two more may
stand. A line break is one character however it is written, and one after a backslash does not
count, nor do the blanks and line breaks after it. -/
def blockString (quote : Char) : (fuel : Nat) → Reader (List Char)
  | 0 => fail
  | fuel + 1 => do
    let quotes ← quoteRun quote
    -- Of up to five quotes the last three close the string.
    if 3 ≤ quotes then pure (List.replicate (quotes - 3) quote)
    else if 0 < quotes then do
      let rest ← blockString quote fuel
      pure (List.replicate quotes quote ++ rest)
    else if ← tryLineBreak then do
      let rest ← blockString quote fuel
      pure ('\n' :: rest)
    else do
      let c ← next
      if c = '\\' ∧ quote = '"' then do
        if ← atLineEnd then do
          bounded blankLines
          blockString quote fuel
        else do
          let e ← escape
          let rest ← blockString quote fuel
          pure (e :: rest)
      else if isTextChar c then do
        let rest ← blockString quote fuel
        pure (c :: rest)
      else fail

/-- Reads a string with the given quotes. -/
def string (quote : Char) : Reader String := do
  let chars ←
    if ← tryText [quote, quote, quote] then do
      let _ ← tryLineBreak
      bounded (blockString quote)
    else do
      advance
      bounded (lineString quote)
  pure (String.ofList chars)

/-! ## Keys -/

/-- Tests for a character of a key without quotes. -/
def isKeyChar (c : Char) : Bool := c.isAlphanum || c = '_' || c = '-'

/-- Reads a single key. -/
def simpleKey : Reader String := do
  match ← look with
  | some '"' => do advance; let chars ← bounded (lineString '"'); pure (String.ofList chars)
  | some '\'' => do advance; let chars ← bounded (lineString '\''); pure (String.ofList chars)
  | _ => do
    let chars ← takeWhile isKeyChar
    if chars.isEmpty then fail else pure (String.ofList chars)

/-- Reads keys with points in between. -/
def keys : (fuel : Nat) → Reader (List String)
  | 0 => fail
  | fuel + 1 => do
    blanks
    let key ← simpleKey
    blanks
    match ← look with
    | some '.' => do
      advance
      let rest ← keys fuel
      pure (key :: rest)
    | _ => pure [key]

/-- Reads a path: the names on the way and the last one. -/
def path : Reader (List String × String) := do
  let names ← bounded keys
  if maxDepth ≤ names.length then fail
  else
    match names.getLast? with
    | some last => pure (names.dropLast, last)
    | none => fail

/-! ## Values -/

/-- Tests for a character of a value without quotes and brackets. -/
def isScalarChar (c : Char) : Bool :=
  c.isAlphanum || c = '_' || c = '-' || c = '+' || c = '.' || c = ':'

/-- Reads a value without quotes and brackets. The time may follow the date after a blank. -/
def scalar : Reader Value := do
  let chars ← takeWhile isScalarChar
  fun input =>
    match input with
    | ' ' :: d :: _ =>
      -- A blank after a date may go on with a time or end the value.
      if Scalar.isDate chars ∧ d.isDigit then
        let time := (input.drop 1).takeWhile isScalarChar
        if Scalar.isTimeWithOffset time then
          some (.datetime (String.ofList (chars ++ ' ' :: time)),
            (input.drop 1).dropWhile isScalarChar)
        else none
      else (Scalar.ofChars? chars).map fun v => (v, input)
    | _ => (Scalar.ofChars? chars).map fun v => (v, input)

/-- Reads the items of an array up to its end. -/
def items (value : Reader Value) : (fuel : Nat) → Reader (List Value)
  | 0 => fail
  | fuel + 1 => do
    bounded gap
    match ← look with
    -- The last item may have a comma after it.
    | some ']' => do advance; pure []
    | _ => do
      let v ← value
      bounded gap
      match ← next with
      | ',' => do
        let rest ← items value fuel
        pure (v :: rest)
      | ']' => pure [v]
      | _ => fail

/-- Reads a path and the value after its equals sign. -/
def assignment (value : Reader Value) : Reader ((List String × String) × Value) := do
  let path ← path
  char '='
  blanks
  let v ← value
  pure (path, v)

/-- Reads the entries of a table that is a value up to its end. -/
def inlineEntries (value : Reader Value) : (fuel : Nat) → Entries → Reader Entries
  | 0, _ => fail
  | fuel + 1, entries => do
    let ((path, key), v) ← assignment value
    match Entries.addValue path key v .inline entries with
    | none => fail
    | some entries => do
      blanks
      match ← next with
      | ',' => inlineEntries value fuel entries
      | '}' => pure entries
      | _ => fail

/-- Reads a value, given readers for what follows an opening bracket and an opening brace. -/
def valueWith (array table : Reader Value) : Reader Value := do
  match ← look with
  | some '"' => do let s ← string '"'; pure (.string s)
  | some '\'' => do let s ← string '\''; pure (.string s)
  | some '[' => do advance; array
  | some '{' => do advance; table
  | _ => scalar

/-- Reads a value in which arrays and tables are nested at most a number of levels deep. -/
def value : (levels : Nat) → Reader Value
  | 0 => valueWith fail fail
  | levels + 1 =>
    valueWith
      (do
        let found ← bounded (items (value levels))
        pure (.array found))
      (do
        blanks
        match ← look with
        | some '}' => do advance; pure (.table .inline [])
        | _ => do
          let entries ← bounded fun fuel => inlineEntries (value levels) fuel []
          pure (.table .inline entries))

/-! ## Documents -/

/-- What has been read of a document: its values, and the header that the next ones belong to. -/
structure Progress where
  entries : Entries := []
  header : List String := []

/-- A change that must be possible. -/
def required : Option α → Reader α
  | some a => pure a
  | none => fail

/-- Reads a header. -/
def header (p : Progress) : Reader Progress := do
  advance
  let double ← tryText ['[']
  let (path, key) ← path
  char ']'
  if double then char ']'
  let begin := if double then Entries.appendTable else Entries.openTable
  let entries ← required (begin path key p.entries)
  pure { entries, header := path ++ [key] }

/-- Reads a line up to its comment. -/
def line (p : Progress) : Reader Progress := do
  blanks
  match ← look with
  | none => pure p
  | some '#' => pure p
  | some '\n' => pure p
  | some '\r' => pure p
  | some '[' => header p
  | some _ => do
    let ((path, key), v) ← assignment (value (maxDepth - 1))
    let entries ← required (p.entries.addUnder p.header path key v)
    pure { p with entries }

/-- Reads the lines of a document. -/
def document : (fuel : Nat) → Progress → Reader Entries
  | 0, _ => fail
  | fuel + 1, p => do
    let p ← line p
    blanks
    comment
    if ← tryLineBreak then document fuel p
    else
      match ← look with
      | none => pure p.entries
      | some _ => fail

end Reader

/-- The document of a text. -/
def parse? (text : String) : Option Entries :=
  let chars := match text.toList with
    | '\uFEFF' :: rest => rest
    | chars => chars
  (Reader.bounded (fun fuel => Reader.document fuel {}) chars).map Prod.fst

end SealedExchange.Toml
