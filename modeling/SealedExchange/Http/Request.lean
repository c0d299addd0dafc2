import SealedExchange.Bytes
import SealedExchange.Text.Basic
import SealedExchange.Text.Utf8

/-! # Heads of requests

A request begins with a head: a line with the method and the target, and a line for each header.
Of the headers only the length of the body matters; the last one that gives it counts.
-/

namespace SealedExchange.Http

/-- A request. -/
structure Request where
  method : String
  path : String
  /-- What follows the question mark of the target, or nothing. -/
  query : String := ""
  body : Bytes := []
deriving DecidableEq

/-- The head of a request. -/
structure Head where
  method : String
  path : String
  query : String
  /-- The number of bytes in the body. -/
  contentLength : Nat
deriving DecidableEq, Repr

/-- Reads a number of at most 64 bits, which may have a plus sign. -/
def readLength? (text : String) : Option Nat := do
  let n ← Text.readNumber? text.toList
  if n < Bytes.count 8 then some n else none

/-- The length that a header line gives, if it gives one; no answer if it cannot be read. -/
def lengthOf? (line : String) : Option (Option Nat) :=
  match Text.splitOnce ':' line with
  | none => some none
  | some (name, value) =>
    if Text.sameIgnoringCase (Text.trim name) "content-length" then
      (readLength? (Text.trim value)).map some
    else some none

/-- The length that the last of some header lines gives, if one does. -/
def lastLength? : List String → Option (Option Nat)
  | [] => some none
  | line :: rest => do
    let own ← lengthOf? line
    let later ← lastLength? rest
    some (later <|> own)

/-- The length that the header lines give; zero if none does. -/
def contentLength? (lines : List String) : Option Nat := (lastLength? lines).map (·.getD 0)

/-- The path and the query of a target. Slashes at the end of the path do not matter. -/
def splitTarget (target : String) : String × String :=
  let (path, query) := (Text.splitOnce '?' target).getD (target, "")
  let path := Text.trimEndSlashes path
  (if path = "" then "/" else path, query)

/-- Reads a head. -/
def Head.parse? (bytes : Bytes) : Option Head :=
  match Text.Utf8.decode bytes with
  | .error _ => none
  | .ok text =>
    match Text.lines text with
    | [] => none
    | first :: headers =>
      match Text.words first with
      | method :: target :: _ => do
        let contentLength ← contentLength? headers
        let (path, query) := splitTarget target
        some { method := Text.upper method, path, query, contentLength }
      | _ => none

end SealedExchange.Http
