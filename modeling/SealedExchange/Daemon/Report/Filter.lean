import SealedExchange.Daemon.Report
import SealedExchange.Text.Alphanumeric
import SealedExchange.Text.Pattern

/-! # Filters on reports

A filter is a list of rules that tell up to which level reports are heard. A rule is about the parts
whose names begin in some way, and of the rules about a part the most specific one decides. A rule
may also ask for an activity during which a report is made, or for fields that a report has.
-/

namespace SealedExchange

/-- A rule about reports. -/
structure ReportRule where
  /-- How the names of the parts begin, if only some parts are meant. -/
  start : Option String := none
  /-- The activity during which reports are meant, if not all of them are. -/
  activity : Option String := none
  /-- The fields that a report must have, each with its value if that matters. -/
  fields : List (String × Option String) := []
  /-- The highest rank that is heard; zero if nothing is. -/
  rank : Nat := 5
deriving DecidableEq, Repr

namespace ReportRule

/-- The rule that lets errors through and nothing else. -/
def errorsOnly : ReportRule := { rank := 1 }

/-- The names of ranks. -/
def rankNames : List String := ["off", "error", "warn", "info", "debug", "trace"]

/-- Reads a rank: a number, which may have a plus sign, or a name. -/
def rank? (text : String) : Option Nat :=
  match Text.readNumber? text.toList with
  | some n => if n < rankNames.length then some n else none
  | none => rankNames.idxOf? (Text.lower text)

/-- Tests for a character that a rule may begin with, apart from an opening bracket. -/
def isStart (c : Char) : Bool :=
  c = '-' || c = ':' || c = '_' || Text.isAlphanumeric c

/-- The characters of a rule. Blanks at its ends are passed over in the search for marks, but marks
are counted from the first character that is not blank, and what stands between them is taken from
the whole text at the same places. Each character to take comes with the one to look at, if there is
one. -/
abbrev Places := List (Option Char × Char)

/-- The characters of the text of a rule. -/
def placesOf (text : String) : Places :=
  let chars := text.toList
  let looked := Text.trimChars chars
  (looked.map some).zip chars ++ (chars.drop looked.length).map (none, ·)

/-- The text at some places. -/
def taken (places : Places) : String := String.ofList (places.map (·.2))

/-- Cuts at the first of some marks. The second part begins with the mark, if there is one. -/
def cut (marks : List Char) (places : Places) : Places × Places :=
  places.span fun place => !(marks.map some).contains place.1

/-- Tests for the value of a field: a number or a pattern. -/
def isFieldValue (text : String) : Bool :=
  (Text.readNumber? text.toList).isSome || Text.isPattern text

/-- Reads a field, which may have a value. -/
def field? (text : String) : Option (String × Option String) :=
  match Text.split '=' text with
  | [] => none
  | [name] => if name = "" then none else some (name, none)
  | name :: value :: _ => if isFieldValue value then some (name, some value) else none

/-- Reads what follows an equals sign, which is a rank; without one everything is heard. -/
def readRank (rule : ReportRule) (places : Places) : Option ReportRule :=
  if places.isEmpty then some rule else (rank? (taken places)).map ({ rule with rank := · })

/-- Reads what follows the brackets. -/
def readEnd (rule : ReportRule) : Places → Option ReportRule
  | (some '=', _) :: rest => rule.readRank rest
  | (some _, _) :: _ => none
  | _ => some rule

/-- Reads a field and the brackets that close behind it. -/
def readField (rule : ReportRule) (places : Places) : Option ReportRule := do
  let (name, rest) := cut ['\x7d'] places
  match rest with
  | _ :: (some ']', _) :: rest =>
    let field ← field? (taken name)
    readEnd { rule with fields := [field] } rest
  | _ => none

/-- Reads the name of an activity and what follows it in the brackets. -/
def readActivity (rule : ReportRule) (places : Places) : Option ReportRule :=
  let (name, rest) := cut [']', '\x7b'] places
  match rest with
  | (some ']', _) :: rest => readEnd { rule with activity := some (taken name) } rest
  | _ :: rest =>
    readField { rule with activity := if name.isEmpty then none else some (taken name) } rest
  | [] => none

/-- Reads a rule. Without a mark it is a rank or the name of parts of which everything is heard. -/
def parse? (text : String) : Option ReportRule :=
  match placesOf text with
  | (some '[', _) :: rest => readActivity {} rest
  | places@((some c, _) :: _) =>
    if ¬isStart c then none
    else
      match cut ['=', '['] places with
      | (name, (some '=', _) :: rest) => readRank { start := some (taken name) } rest
      | (name, _ :: rest) => readActivity { start := some (taken name) } rest
      | (_, []) =>
        match rank? text with
        | some rank => some { rank }
        | none => some { start := some text }
  | _ => none

/-- Tests for a rule that can decide about a report by itself: one that asks neither for an activity
nor for the value of a field. -/
def isPlain (rule : ReportRule) : Bool :=
  rule.activity.isNone && rule.fields.all fun field => field.2.isNone

/-- The fields of a report. -/
def reportFields : List String := ["message"]

/-- Tests whether a rule decides about a part unless a more specific one does. -/
def applies (rule : ReportRule) (part : String) : Bool :=
  rule.isPlain && rule.start.all (fun start => start.toList.isPrefixOf part.toList) &&
    rule.fields.all fun field => reportFields.contains field.1

/-- How specific a rule is: first of all a rule that names parts is more specific than one that does
not, then a longer name counts and then the number of fields. -/
def weight (rule : ReportRule) : List Nat :=
  [rule.start.elim 0 fun start => start.utf8ByteSize + 1, rule.fields.length]

end ReportRule

/-- Which reports are heard. -/
structure ReportFilter where
  rules : List ReportRule
deriving DecidableEq, Repr

namespace ReportFilter

/-- The filter of some rules; without any, only errors are heard. -/
def ofRules (rules : List ReportRule) : ReportFilter :=
  ⟨if rules.isEmpty then [.errorsOnly] else rules⟩

/-- The texts of the rules in a text. -/
def ruleTexts (text : String) : List String :=
  (Text.split ',' text).filter (· ≠ "")

/-- The rules of a text, all of which must be readable. -/
def parse? (text : String) : Option ReportFilter :=
  ((ruleTexts text).mapM ReportRule.parse?).map ofRules

/-- The rules of a text, without those that cannot be read. -/
def parseLossy (text : String) : ReportFilter :=
  ofRules ((ruleTexts text).filterMap ReportRule.parse?)

/-- The rule that decides between two: the more specific one, and of equally specific ones the
later. -/
def decisive (best : Option ReportRule) (rule : ReportRule) : Option ReportRule :=
  match best with
  | none => some rule
  | some other => if rule.weight < other.weight then best else some rule

/-- Tests whether a report is heard. -/
def hears (f : ReportFilter) (r : Report) : Bool :=
  match (f.rules.filter (·.applies r.part)).foldl decisive none with
  | some rule => r.level.rank ≤ rule.rank
  | none => false

end ReportFilter

end SealedExchange
