/-! # Locks on hashes

A change to what is stored under a hash is made while the lock of the hash is held. Mutexes are made
on demand: a table maps every hash that is in use to its mutex, and whoever gives a mutex back
removes the entry if nobody else refers to the mutex. Getting hold of the entry, lining up at the
mutex, being let in, giving the mutex back and removing the entry are separate steps, which the
steps of other requests may come in between.
-/

namespace SealedExchange

namespace Locks

/-- How far a request has come. -/
inductive Stage
  /-- It has found or made the entry of its hash. -/
  | entered
  /-- It has lined up at the mutex. -/
  | waiting
  /-- It holds the mutex. -/
  | holding
  /-- It has given the mutex back and is about to look at the entry. -/
  | leaving
deriving DecidableEq, Repr

/-- A request for the lock of a hash. -/
structure Request (ι κ : Type) where
  id : ι
  hash : κ
  /-- The mutex that stood in the table when the request came. -/
  mutex : Nat
  stage : Stage
deriving DecidableEq, Repr

/-- Tests whether a request refers to a mutex. One that is leaving has dropped its reference. -/
def Request.uses {ι κ : Type} (r : Request ι κ) (mutex : Nat) : Bool :=
  r.mutex = mutex ∧ r.stage ≠ .leaving

/-- A step of a request. -/
inductive Event (ι κ : Type)
  | enter (id : ι) (hash : κ)
  | lineUp (id : ι)
  | grant (id : ι)
  | abandon (id : ι)
  | release (id : ι)
  | prune (id : ι)
deriving DecidableEq, Repr

end Locks

open Locks in
/-- The mutexes in use and the requests for them. -/
structure Locks (ι κ : Type) where
  /-- The hashes in use, each with its mutex. -/
  table : List (κ × Nat) := []
  /-- A mutex that has not been in use yet, and so are all greater ones. -/
  fresh : Nat := 0
  /-- The requests. Those that have lined up are in the order in which they did. -/
  requests : List (Request ι κ) := []

namespace Locks

variable {ι κ : Type} [DecidableEq ι] [DecidableEq κ]

/-- The request with an identity. -/
def request? (l : Locks ι κ) (id : ι) : Option (Request ι κ) := l.requests.find? (·.id = id)

/-- The request with an identity if it has come to a stage. -/
def requestAt? (l : Locks ι κ) (id : ι) (stage : Stage) : Option (Request ι κ) :=
  (l.request? id).filter (·.stage = stage)

/-- The requests but one. -/
def others (l : Locks ι κ) (id : ι) : List (Request ι κ) := l.requests.filter (·.id ≠ id)

/-- Moves a request to another stage, in its place. -/
def advance (l : Locks ι κ) (id : ι) (stage : Stage) : Locks ι κ :=
  { l with requests := l.requests.map fun r => if r.id = id then { r with stage } else r }

/-- The hashes in use. -/
def hashes (l : Locks ι κ) : List κ := l.table.map (·.1)

/-- A request comes: it takes the mutex of its hash from the table, or puts a new one there. -/
def enter (l : Locks ι κ) (id : ι) (hash : κ) : Locks ι κ :=
  match l.table.lookup hash with
  | some mutex => { l with requests := l.requests ++ [⟨id, hash, mutex, .entered⟩] }
  | none =>
    { table := l.table ++ [(hash, l.fresh)]
      fresh := l.fresh + 1
      requests := l.requests ++ [⟨id, hash, l.fresh, .entered⟩] }

/-- A request lines up behind all that have lined up. -/
def lineUp (l : Locks ι κ) (r : Request ι κ) : Locks ι κ :=
  { l with requests := l.others r.id ++ [{ r with stage := .waiting }] }

/-- Tests whether a mutex is free and a request is the first in line. -/
def isNext (l : Locks ι κ) (r : Request ι κ) : Bool :=
  l.requests.all (fun other => other.mutex ≠ r.mutex ∨ other.stage ≠ .holding) ∧
    (l.requests.takeWhile (·.id ≠ r.id)).all fun earlier =>
      earlier.mutex ≠ r.mutex ∨ earlier.stage ≠ .waiting

/-- A request goes away without having held the mutex. -/
def forget (l : Locks ι κ) (id : ι) : Locks ι κ := { l with requests := l.others id }

/-- A request goes away after it has given the mutex back. It removes the entry of its hash if no
request refers to the mutex there. -/
def prune (l : Locks ι κ) (r : Request ι κ) : Locks ι κ :=
  let requests := l.others r.id
  match l.table.lookup r.hash with
  | some mutex =>
    if requests.any (·.uses mutex) then { l with requests }
    else { l with table := l.table.filter (·.1 ≠ r.hash), requests }
  | none => { l with requests }

/-- The locks after a step, if the step is possible. -/
def step? (l : Locks ι κ) : Event ι κ → Option (Locks ι κ)
  | .enter id hash => if (l.request? id).isSome then none else some (l.enter id hash)
  | .lineUp id => (l.requestAt? id .entered).map l.lineUp
  | .grant id =>
    ((l.requestAt? id .waiting).filter l.isNext).map fun r => l.advance r.id .holding
  | .abandon id =>
    ((l.requestAt? id .entered) <|> (l.requestAt? id .waiting)).map fun r => l.forget r.id
  | .release id => (l.requestAt? id .holding).map fun r => l.advance r.id .leaving
  | .prune id => (l.requestAt? id .leaving).map l.prune

/-- The locks after a step; one that is not possible has no effect. -/
def step (l : Locks ι κ) (e : Event ι κ) : Locks ι κ := (l.step? e).getD l

/-- The locks after several steps. -/
def run (l : Locks ι κ) (events : List (Event ι κ)) : Locks ι κ := events.foldl step l

/-- The requests that have come to a stage. -/
def idsAt (l : Locks ι κ) (stage : Stage) : List ι :=
  (l.requests.filter (·.stage = stage)).map (·.id)

/-- Lets in every request whose turn it is. -/
def settle (l : Locks ι κ) : Locks ι κ := l.run ((l.idsAt .waiting).map .grant)

/-- Asks for the lock of a hash. -/
def lock (l : Locks ι κ) (id : ι) (hash : κ) : Locks ι κ := l.run [.enter id hash, .lineUp id]

/-- Gives a lock back, or stops to wait for it. -/
def drop (l : Locks ι κ) (id : ι) : Locks ι κ := l.run [.abandon id, .release id, .prune id]

end Locks

end SealedExchange
