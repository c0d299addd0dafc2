/-! # Patterns

A pattern describes texts. It is made of characters and classes of them in square brackets, of
groups in round brackets, of alternatives and of repetitions. What matters here is only whether a
text is a pattern at all: whether its brackets match, whether something stands before each
repetition, and whether each backslash stands before a character that it gives a meaning to.
-/

namespace SealedExchange.Text

/-- What has been read of a pattern last. -/
inductive PatternPlace
  /-- Nothing that could be repeated. -/
  | nothing
  | item
  | backslash
  | groupStart
  /-- The settings of a group, which stand behind a question mark. -/
  | settings
  | groupName
  | classStart
  /-- The start of a class of the characters that are not listed. -/
  | complementStart
deriving DecidableEq, Repr

/-- A pattern that is being read. -/
structure PatternState where
  /-- How many groups are open. -/
  groups : Nat := 0
  /-- How many classes are open. -/
  classes : Nat := 0
  place : PatternPlace := .nothing
deriving DecidableEq, Repr

namespace PatternState

/-- Tests for a character that means something behind a backslash. -/
def isEscaped (c : Char) : Bool :=
  if c.isAlphanum then c ∈ "afnrtvAzdDsSwW".toList else 0x20 < c.toNat && c.toNat < 0x7f

/-- Closes a group. -/
def closeGroup (s : PatternState) (place : PatternPlace) : Option PatternState :=
  if s.groups = 0 then none else some { s with groups := s.groups - 1, place }

/-- Reads a character of a class. A closing bracket at its start is listed like any other
character. -/
def readListed (s : PatternState) (c : Char) : Option PatternState :=
  if c = '\\' then some { s with place := .backslash }
  else if c = '^' ∧ s.place = .classStart then some { s with place := .complementStart }
  else if c = '[' then some { s with classes := s.classes + 1, place := .classStart }
  else if c = ']' ∧ s.place = .item then some { s with classes := s.classes - 1 }
  else some { s with place := .item }

/-- Reads a character outside of classes. A count of repetitions has no room in a rule and is
refused. -/
def readPlain (s : PatternState) (c : Char) : Option PatternState :=
  if c = '\\' then some { s with place := .backslash }
  else if c = '[' then some { s with classes := 1, place := .classStart }
  else if c = '(' then some { s with groups := s.groups + 1, place := .groupStart }
  else if c = ')' then s.closeGroup .item
  else if c = '|' then some { s with place := .nothing }
  else if c = '*' ∨ c = '+' ∨ c = '?' then if s.place = .item then some s else none
  else if c = '\x7b' then none
  else some { s with place := .item }

/-- Reads a character. -/
def read (s : PatternState) (c : Char) : Option PatternState :=
  match s.place with
  | .backslash => if isEscaped c then some { s with place := .item } else none
  | .groupStart => if c = '?' then some { s with place := .settings } else s.readPlain c
  | .settings =>
    if c = ':' then some { s with place := .nothing }
    else if c = ')' then s.closeGroup .nothing
    else if c = '<' then some { s with place := .groupName }
    else if c.isAlpha ∨ c = '-' then some s
    else none
  | .groupName => some { s with place := if c = '>' then .nothing else .groupName }
  | _ => if s.classes = 0 then s.readPlain c else s.readListed c

/-- Tests whether a pattern may end here. -/
def mayEnd (s : PatternState) : Bool :=
  s.groups = 0 && s.classes = 0 && s.place ≠ .backslash

end PatternState

/-- Tests for a pattern. -/
def isPattern (text : String) : Bool :=
  match text.toList.foldlM PatternState.read {} with
  | some s => s.mayEnd
  | none => false

end SealedExchange.Text
