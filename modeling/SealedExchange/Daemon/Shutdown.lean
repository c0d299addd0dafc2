/-! # Shutting down

The background tasks of a program are asked to stop and get some time to do so. The shutdown is
orderly if all of them have ended by then, whether or not they ended well.
-/

namespace SealedExchange

/-- How a task behaves when it is asked to stop. -/
inductive TaskBehaviour
  /-- It has ended before. -/
  | ended
  /-- It waits to be asked and then ends. -/
  | obedient
  /-- It breaks off. -/
  | broken
  /-- It goes on for longer than it may. -/
  | stuck
deriving DecidableEq, Repr

/-- Tests whether a task has ended when the time is up. -/
def TaskBehaviour.ends : TaskBehaviour → Bool
  | .stuck => false
  | _ => true

/-- The tasks of a program. -/
structure Supervisor where
  tasks : List TaskBehaviour := []
  /-- Whether the tasks have been asked to stop. -/
  stopping : Bool := false
deriving DecidableEq, Repr

namespace Supervisor

/-- Adds a task. -/
def register (s : Supervisor) (task : TaskBehaviour) : Supervisor :=
  { s with tasks := s.tasks ++ [task] }

/-- Asks every task to stop: whether all have ended in time. -/
def shutdown (s : Supervisor) : Bool × Supervisor :=
  (s.tasks.all TaskBehaviour.ends, { tasks := [], stopping := true })

end Supervisor

end SealedExchange
