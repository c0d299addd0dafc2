import Mathlib.Data.List.Sort
import SealedExchange.Sorted.Set

/-! # Membership in sorted sets

A sorted set is determined by its members, so sets are compared by asking for their members.
-/

namespace SealedExchange.SortedSet

variable {α : Type} [Ord α]

theorem mem_def {s : SortedSet α} {a : α} : a ∈ s ↔ a ∈ s.elems := Iff.rfl

@[simp] theorem notMem_empty (a : α) : a ∉ (empty : SortedSet α) := List.not_mem_nil

theorem isEmpty_iff {s : SortedSet α} : s.isEmpty = true ↔ ∀ a, a ∉ s := by
  rw [isEmpty, List.isEmpty_iff, List.eq_nil_iff_forall_not_mem]
  rfl

theorem mem_filter {s : SortedSet α} {keep : α → Bool} {a : α} :
    a ∈ s.filter keep ↔ a ∈ s ∧ keep a = true :=
  List.mem_filter

theorem mem_inter [DecidableEq α] {s t : SortedSet α} {a : α} : a ∈ s.inter t ↔ a ∈ s ∧ a ∈ t := by
  rw [inter, mem_filter, decide_eq_true_iff]

section Order

variable [Std.TransOrd α] [Std.LawfulEqOrd α]

omit [Std.TransOrd α] in
theorem mem_insertElem_iff {a b : α} {elems : List α} :
    b ∈ insertElem a elems ↔ b = a ∨ b ∈ elems := by
  refine ⟨mem_insertElem, ?_⟩
  induction elems with
  | nil => simp [insertElem]
  | cons head rest ih =>
    rw [insertElem]
    split
    next => simp
    next hcompare =>
      have heq : a = head := Std.LawfulEqCmp.eq_of_compare hcompare
      rw [heq]
      rintro (rfl | hmem)
      · exact List.mem_cons_self
      · exact hmem
    next =>
      rintro (rfl | hmem)
      · exact .tail _ (ih (.inl rfl))
      · rcases List.mem_cons.mp hmem with rfl | hmem
        · exact List.mem_cons_self
        · exact .tail _ (ih (.inr hmem))

theorem mem_insert {s : SortedSet α} {a b : α} : b ∈ s.insert a ↔ b = a ∨ b ∈ s :=
  mem_insertElem_iff

omit [Std.TransOrd α] [Std.LawfulEqOrd α] in
/-- A search that the new element does not meet goes on as before. -/
theorem find?_insertElem_of_not {test : α → Bool} {a : α} (hnot : test a = false)
    (elems : List α) : (insertElem a elems).find? test = elems.find? test := by
  induction elems with
  | nil => simp [insertElem, hnot]
  | cons head rest ih =>
    rw [insertElem]
    split
    next => rw [List.find?_cons_of_neg (by simp [hnot])]
    next hcompare => rfl
    next => simp only [List.find?_cons, ih]

omit [Std.TransOrd α] in
/-- A search that the new element alone meets finds it. -/
theorem find?_insertElem_of_unique {test : α → Bool} {a : α} (hmeets : test a = true)
    {elems : List α} (hothers : ∀ b ∈ elems, test b = false) :
    (insertElem a elems).find? test = some a := by
  have hfound : ((insertElem a elems).find? test).isSome :=
    List.find?_isSome.mpr ⟨a, mem_insertElem_iff.mpr (.inl rfl), hmeets⟩
  obtain ⟨b, hb⟩ := Option.isSome_iff_exists.mp hfound
  rcases mem_insertElem_iff.mp (List.mem_of_find?_eq_some hb) with rfl | hmem
  · exact hb
  · have hmet := List.find?_some hb
    rw [hothers b hmem] at hmet
    cases hmet

theorem mem_foldl_insert {s : SortedSet α} {elems : List α} {a : α} :
    a ∈ elems.foldl insert s ↔ a ∈ s ∨ a ∈ elems := by
  induction elems generalizing s with
  | nil => simp
  | cons head rest ih =>
    rw [List.foldl_cons, ih, mem_insert, List.mem_cons]
    constructor
    · rintro ((heq | hmem) | hmem)
      · exact .inr (.inl heq)
      · exact .inl hmem
      · exact .inr (.inr hmem)
    · rintro (hmem | heq | hmem)
      · exact .inl (.inr hmem)
      · exact .inl (.inl heq)
      · exact .inr hmem

@[simp] theorem mem_ofList {elems : List α} {a : α} : a ∈ ofList elems ↔ a ∈ elems := by
  rw [ofList, mem_foldl_insert]
  simp

omit [Std.LawfulEqOrd α] in
theorem nodup_elems (s : SortedSet α) : s.elems.Nodup := by
  refine s.sorted.imp fun {a b} hlt heq => ?_
  have hself : compare b b = .eq := Std.ReflCmp.compare_self
  rw [heq, hself] at hlt
  cases hlt

omit [Std.LawfulEqOrd α] in
/-- Two ordered lists with the same members are equal. -/
theorem eq_of_mem_iff_of_sorted {β : Type} {key : β → α} {xs ys : List β}
    (hxs : xs.Pairwise fun a b => compare (key a) (key b) = .lt)
    (hys : ys.Pairwise fun a b => compare (key a) (key b) = .lt) (hmem : ∀ b, b ∈ xs ↔ b ∈ ys) :
    xs = ys := by
  have : Std.Irrefl fun a b => compare (key a) (key b) = .lt := ⟨fun a h => by simp at h⟩
  have : Std.Antisymm fun a b => compare (key a) (key b) = .lt := by
    refine ⟨fun a b hlt hgt => ?_⟩
    rw [Std.OrientedCmp.gt_of_lt hlt] at hgt
    cases hgt
  exact hxs.eq_of_mem_iff hys hmem

omit [Std.LawfulEqOrd α] in
theorem ext_mem {s t : SortedSet α} (hmem : ∀ a, a ∈ s ↔ a ∈ t) : s = t := by
  have helems := eq_of_mem_iff_of_sorted s.sorted t.sorted hmem
  cases s
  cases t
  cases helems
  rfl

theorem ofList_congr {xs ys : List α} (hmem : ∀ a, a ∈ xs ↔ a ∈ ys) : ofList xs = ofList ys :=
  ext_mem fun a => by rw [mem_ofList, mem_ofList, hmem]

/-- Building a set from its own elements gives the set. -/
@[simp] theorem ofList_elems (s : SortedSet α) : ofList s.elems = s :=
  ext_mem fun _ => mem_ofList

omit [Std.TransOrd α] [Std.LawfulEqOrd α] in
theorem length_insertElem_le (a : α) (elems : List α) :
    (insertElem a elems).length ≤ elems.length + 1 := by
  induction elems with
  | nil => exact Nat.le_refl 1
  | cons head rest ih =>
    rw [insertElem]
    split
    next => exact Nat.le_refl _
    next => exact Nat.le_succ _
    next => exact Nat.succ_le_succ ih

omit [Std.LawfulEqOrd α] in
theorem length_foldl_insert_le (s : SortedSet α) (elems : List α) :
    (elems.foldl insert s).elems.length ≤ s.elems.length + elems.length := by
  induction elems generalizing s with
  | nil => exact Nat.le_refl _
  | cons head rest ih =>
    have hrest := ih (s.insert head)
    have hinsert := length_insertElem_le head s.elems
    change _ ≤ (insertElem head s.elems).length + rest.length at hrest
    rw [List.foldl_cons, List.length_cons]
    omega

omit [Std.LawfulEqOrd α] in
theorem length_ofList_le (elems : List α) : (ofList elems).elems.length ≤ elems.length := by
  have hle := length_foldl_insert_le empty elems
  rwa [show (empty : SortedSet α).elems.length = 0 from rfl, Nat.zero_add] at hle

end Order

end SealedExchange.SortedSet
