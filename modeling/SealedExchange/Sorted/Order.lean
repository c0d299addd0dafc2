/-! # Orders by a key

A type that is determined by a key inherits the order of the key. The two classes that ordered
maps and sets ask for, transitivity and that equal comparison means equality, carry over.
-/

namespace SealedExchange.Sorted

variable {α κ : Type} [Ord κ] {key : α → κ}

/-- Compares by a key. -/
@[reducible] def ordBy (key : α → κ) : Ord α := ⟨fun a b => compare (key a) (key b)⟩

theorem transOrd_ordBy [Std.TransOrd κ] (key : α → κ) : @Std.TransOrd α (ordBy key) :=
  letI := ordBy key
  { eq_swap := fun {a b} => (Std.OrientedCmp.eq_swap : compare (key a) (key b) = _)
    isLE_trans := fun {a _ c} h h' =>
      (Std.TransCmp.isLE_trans h h' : (compare (key a) (key c)).isLE) }

theorem lawfulEqOrd_ordBy [Std.LawfulEqOrd κ] (key : α → κ) (inj : ∀ a b, key a = key b → a = b) :
    @Std.LawfulEqOrd α (ordBy key) :=
  letI := ordBy key
  { compare_self := fun {a} => (Std.ReflCmp.compare_self : compare (key a) (key a) = .eq)
    eq_of_compare := fun {a b} h =>
      inj a b (Std.LawfulEqCmp.eq_of_compare (show compare (key a) (key b) = .eq from h)) }

end SealedExchange.Sorted
