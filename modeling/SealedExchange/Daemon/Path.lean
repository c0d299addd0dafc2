import SealedExchange.Text.Basic

/-! # Paths

A path is a text of parts with slashes between them, each of which leads from one directory to the
next. Empty parts and single dots lead nowhere, and two dots lead back to the directory around.
-/

namespace SealedExchange.Path

/-- The parts of a path, with those that lead nowhere. -/
def steps (path : String) : List String := Text.split '/' path

/-- Tests for a part that leads nowhere. -/
def isIdle (part : String) : Bool := part = "" || part = "."

/-- The parts of a path that lead somewhere. -/
def parts (path : String) : List String := (steps path).filter fun part => !isIdle part

/-- The part that leads to the directory around. -/
def back : String := ".."

/-- The parts of the path to the directory that a path leads into. -/
def parent (path : String) : List String := (parts path).dropLast

/-- Tests for a part that can be the name of a file or of a directory. -/
def isName (part : String) : Bool :=
  part.utf8ByteSize ≤ 255 && !part.toList.contains '\x00'

/-- Tests for a text that can be a path. -/
def isPath (path : String) : Bool := path ≠ "" && path.utf8ByteSize < 4096

/-- The path with the given parts, seen from where another path is seen from. -/
def along (path : String) (parts : List String) : String :=
  (if path.toList.head? = some '/' then "/" else "") ++ Text.join "/" parts

/-- The name without its ending, which begins with the last dot unless the name does. -/
def stem (name : String) : String :=
  match Text.splitOnceChars '.' name.toList.reverse with
  | some (_, start@(_ :: _)) => String.ofList start.reverse
  | _ => name

/-- The path of the file that is written before the file at a path is replaced. A path without a
name has no such file beside it. -/
def draft (path : String) : String :=
  match (parts path).getLast? with
  | none => path
  | some name =>
    if name = back then path else along path (parent path ++ [stem name ++ ".tmp"])

end SealedExchange.Path
