/-! # Lists joined without repeats

`appendNewBy key xs ys` keeps `xs` and appends the elements of `ys` whose key has not occurred
before, in order.
-/

namespace SealedExchange.Sorted

variable {α κ : Type} [DecidableEq κ]

/-- Appends an element unless its key has occurred. -/
def appendIfNew (key : α → κ) (xs : List α) (y : α) : List α :=
  if key y ∈ xs.map key then xs else xs ++ [y]

/-- Appends the elements whose key has not occurred before. -/
def appendNewBy (key : α → κ) (xs ys : List α) : List α :=
  ys.foldl (appendIfNew key) xs

/-- Appends the elements that have not occurred before. -/
def appendNew [DecidableEq α] (xs ys : List α) : List α :=
  appendNewBy id xs ys

end SealedExchange.Sorted
