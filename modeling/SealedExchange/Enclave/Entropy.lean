import SealedExchange.Bytes

/-! # Random bytes

Keys, nonces, salts and challenges are taken from one endless sequence of bytes. A draw takes the
next bytes of the sequence, so what a computation draws is determined by the sequence and the
order of its draws.
-/

namespace SealedExchange

/-- An endless sequence of bytes, of which some have been used. -/
structure Entropy where
  byteAt : Nat → UInt8
  used : Nat := 0

namespace Entropy

/-- The next `n` bytes. -/
def peek (e : Entropy) (n : Nat) : Bytes :=
  (List.range n).map fun i => e.byteAt (e.used + i)

/-- The sequence after `n` more bytes. -/
def skip (e : Entropy) (n : Nat) : Entropy := { e with used := e.used + n }

/-- Takes the next `n` bytes. -/
def draw (n : Nat) : StateM Entropy Bytes := fun e => (e.peek n, e.skip n)

@[simp] theorem length_peek (e : Entropy) (n : Nat) : (e.peek n).length = n := by
  simp [peek]

end Entropy

/-- A computation that draws random bytes and may fail; what it has drawn stays drawn. -/
abbrev Drawing (ε : Type) := ExceptT ε (StateM Entropy)

/-- Draws random bytes in a computation that may fail. -/
def Drawing.draw (n : Nat) : Drawing ε Bytes := fun e => (.ok (e.peek n), e.skip n)

/-- A result that draws nothing. -/
def Drawing.ofExcept (r : Except ε α) : Drawing ε α := fun e => (r, e)

/-- Gives the error another type. -/
def Drawing.mapError (f : ε → ε') (d : Drawing ε α) : Drawing ε' α := fun e =>
  let (r, e) := d e
  (r.mapError f, e)

end SealedExchange
