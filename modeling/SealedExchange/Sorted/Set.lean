/-! # Sets in order

A `SortedSet` keeps its elements in strictly increasing order without repeats, so two sets with
the same elements are the same value and listing a set is listing it in order.
-/

namespace SealedExchange

/-- A finite set whose elements stand in strictly increasing order. -/
structure SortedSet (α : Type) [Ord α] where
  /-- The elements, each once. -/
  elems : List α
  /-- Elements increase from each one to every later one. -/
  sorted : elems.Pairwise fun a b => compare a b = .lt

namespace SortedSet

variable {α : Type} [Ord α]

/-- Puts an element in its place in an ordered list, unless it is there already. -/
def insertElem (a : α) : List α → List α
  | [] => [a]
  | b :: rest =>
    match compare a b with
    | .lt => a :: b :: rest
    | .eq => b :: rest
    | .gt => b :: insertElem a rest

theorem mem_insertElem {a b : α} {elems : List α} :
    b ∈ insertElem a elems → b = a ∨ b ∈ elems := by
  induction elems with
  | nil => simp [insertElem]
  | cons head rest ih => rw [insertElem]; split <;> grind

theorem pairwise_insertElem [Std.TransOrd α] (a : α)
    {elems : List α} (h : elems.Pairwise fun a b => compare a b = .lt) :
    (insertElem a elems).Pairwise fun a b => compare a b = .lt := by
  induction elems with
  | nil => simp [insertElem]
  | cons head rest ih =>
    obtain ⟨hhead, hrest⟩ := List.pairwise_cons.mp h
    rw [insertElem]
    split
    · rename_i hlt
      refine List.pairwise_cons.mpr ⟨fun b hmem => ?_, h⟩
      rcases List.mem_cons.mp hmem with rfl | hmem
      · exact hlt
      · exact Std.TransCmp.lt_trans hlt (hhead b hmem)
    · exact h
    · rename_i hgt
      refine List.pairwise_cons.mpr ⟨fun b hmem => ?_, ih hrest⟩
      rcases mem_insertElem hmem with rfl | hmem
      · exact Std.OrientedCmp.lt_of_gt hgt
      · exact hhead b hmem

instance [DecidableEq α] : DecidableEq (SortedSet α) := fun a b =>
  if h : a.elems = b.elems then
    isTrue (by cases a; cases b; cases h; rfl)
  else
    isFalse fun heq => h (heq ▸ rfl)

instance : Membership α (SortedSet α) := ⟨fun s a => a ∈ s.elems⟩

instance [DecidableEq α] (a : α) (s : SortedSet α) : Decidable (a ∈ s) :=
  inferInstanceAs (Decidable (a ∈ s.elems))

/-- The set without elements. -/
def empty : SortedSet α := ⟨[], .nil⟩

instance : Inhabited (SortedSet α) := ⟨empty⟩

/-- Tests whether the set has no element. -/
def isEmpty (s : SortedSet α) : Bool := s.elems.isEmpty

/-- The number of elements. -/
def size (s : SortedSet α) : Nat := s.elems.length

/-- Keeps the elements that pass a test. -/
def filter (s : SortedSet α) (keep : α → Bool) : SortedSet α :=
  ⟨s.elems.filter keep, s.sorted.filter _⟩

/-- The elements that are in both sets. -/
def inter [DecidableEq α] (s t : SortedSet α) : SortedSet α :=
  s.filter (· ∈ t)

/-- Tests whether every element of the first set is in the second. -/
def isSubset [DecidableEq α] (s t : SortedSet α) : Bool :=
  s.elems.all (· ∈ t)

variable [Std.TransOrd α]

/-- Adds an element. -/
def insert (s : SortedSet α) (a : α) : SortedSet α :=
  ⟨insertElem a s.elems, pairwise_insertElem a s.sorted⟩

/-- The set of the elements of a list. -/
def ofList (elems : List α) : SortedSet α :=
  elems.foldl insert empty

end SortedSet

end SealedExchange
