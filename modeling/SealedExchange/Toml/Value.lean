import SealedExchange.Text.Basic

/-! # TOML documents

A document is a table of named values. Tables may be written in several places, but each of them
only once; `TableKind` keeps the way in which a table came about, which decides what may still be
added to it.
-/

namespace SealedExchange.Toml

/-- How a table came about. -/
inductive TableKind
  /-- By a header of its own, or as the document itself. -/
  | written
  /-- As part of the path of another table's header. -/
  | implied
  /-- As part of the path of a value. -/
  | dotted
  /-- As a value. Nothing can be added to it. -/
  | inline
deriving DecidableEq, Repr

/-- A value. Floating-point numbers and dates keep the text they were written in. -/
inductive Value
  | string (text : String)
  | integer (value : Int)
  | float (text : String)
  | boolean (value : Bool)
  | datetime (text : String)
  | array (items : List Value)
  | table (kind : TableKind) (entries : List (String × Value))
  /-- The tables that share a header with double brackets. -/
  | tables (items : List (List (String × Value)))

/-- The values of a table by their names. -/
abbrev Entries := List (String × Value)

namespace Entries

/-- Gives a name that is taken another value. -/
def set (key : String) (value : Value) (entries : Entries) : Entries :=
  entries.map fun entry => if entry.1 = key then (key, value) else entry

/-- Changes the table at a path. Tables that are missing on the way are made; `dotted` says whether
the path belongs to a value, which may not lead through a table with a header of its own. -/
def update (dotted : Bool) (change : TableKind → Entries → Option Entries) :
    (path : List String) → (kind : TableKind) → Entries → Option Entries
  | [], kind, entries => change kind entries
  | key :: path, _, entries =>
    match entries.lookup key with
    | none => do
      let kind := if dotted then TableKind.dotted else .implied
      let inner ← update dotted change path kind []
      some (entries ++ [(key, .table kind inner)])
    | some (.table kind inner) =>
      if kind = .inline ∨ (dotted ∧ kind = .written) then none
      else do
        let inner ← update dotted change path kind inner
        some (entries.set key (.table kind inner))
    | some (.tables items) => do
      let last ← items.getLast?
      let inner ← update dotted change path .written last
      some (entries.set key (.tables (items.dropLast ++ [inner])))
    | some _ => none

/-- Adds a value under a name that is not taken. A path of several names leads into tables that
were made by such paths only. -/
def addValue (path : List String) (key : String) (value : Value) (kind : TableKind)
    (entries : Entries) : Option Entries :=
  update true
    (fun kind entries =>
      if decide (kind = .dotted) = path.isEmpty ∨ (entries.lookup key).isSome then none
      else some (entries ++ [(key, value)]))
    path kind entries

/-- Begins the table of a header. -/
def openTable (path : List String) (key : String) (entries : Entries) : Option Entries :=
  update false
    (fun _ entries =>
      match entries.lookup key with
      | none => some (entries ++ [(key, .table .written [])])
      | some (.table .implied inner) => some (entries.set key (.table .written inner))
      | some _ => none)
    path .written entries

/-- Begins another table of a header with double brackets. -/
def appendTable (path : List String) (key : String) (entries : Entries) : Option Entries :=
  update false
    (fun _ entries =>
      match entries.lookup key with
      | none => some (entries ++ [(key, .tables [[]])])
      | some (.tables items) => some (entries.set key (.tables (items ++ [[]])))
      | some _ => none)
    path .written entries

/-- Adds a value to the table of a header. -/
def addUnder (header path : List String) (key : String) (value : Value) (entries : Entries) :
    Option Entries :=
  update false (addValue path key value) header .written entries

end Entries

end SealedExchange.Toml
