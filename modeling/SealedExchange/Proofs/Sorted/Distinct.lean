import SealedExchange.Sorted.Distinct

/-! # What joining lists without repeats keeps and adds

The first list stays in front, every key of either list occurs, and no key is repeated that was
not repeated before. Looked up as an association list, the first list takes precedence. Joining the
same list once more adds nothing.
-/

namespace SealedExchange.Sorted

variable {α κ : Type} [DecidableEq κ]

section By

variable {key : α → κ}

theorem appendNewBy_cons (xs : List α) (y : α) (ys : List α) :
    appendNewBy key xs (y :: ys) = appendNewBy key (appendIfNew key xs y) ys := rfl

theorem prefix_appendIfNew (xs : List α) (y : α) : xs <+: appendIfNew key xs y := by
  unfold appendIfNew
  split
  · exact List.prefix_rfl
  · exact List.prefix_append _ _

theorem prefix_appendNewBy (xs ys : List α) : xs <+: appendNewBy key xs ys := by
  induction ys generalizing xs with
  | nil => exact List.prefix_rfl
  | cons y ys ih => exact (prefix_appendIfNew xs y).trans (ih _)

theorem mem_map_appendIfNew {xs : List α} {y : α} {k : κ} :
    k ∈ (appendIfNew key xs y).map key ↔ k ∈ xs.map key ∨ k = key y := by
  unfold appendIfNew
  split
  next hmem =>
    refine ⟨.inl, ?_⟩
    rintro (hk | rfl)
    · exact hk
    · exact hmem
  next => simp

theorem mem_map_appendNewBy {xs ys : List α} {k : κ} :
    k ∈ (appendNewBy key xs ys).map key ↔ k ∈ xs.map key ∨ k ∈ ys.map key := by
  induction ys generalizing xs with
  | nil => simp [appendNewBy]
  | cons y ys ih => rw [appendNewBy_cons, ih, mem_map_appendIfNew, List.map_cons, List.mem_cons,
      or_assoc]

theorem appendIfNew_eq_self_iff {xs : List α} {y : α} :
    appendIfNew key xs y = xs ↔ key y ∈ xs.map key := by
  unfold appendIfNew
  split
  next hmem => exact iff_of_true rfl hmem
  next hnew => exact iff_of_false (by simp) hnew

/-- Nothing is added exactly if every key has occurred before. -/
theorem appendNewBy_eq_self_iff {xs ys : List α} :
    appendNewBy key xs ys = xs ↔ ∀ k ∈ ys.map key, k ∈ xs.map key := by
  constructor
  · intro heq k hk
    rw [← heq]
    exact mem_map_appendNewBy.mpr (.inr hk)
  · intro hall
    induction ys with
    | nil => rfl
    | cons y ys ih =>
      obtain ⟨hy, hys⟩ := List.forall_mem_cons.mp hall
      rw [appendNewBy_cons, appendIfNew_eq_self_iff.mpr hy, ih hys]

theorem appendNewBy_appendNewBy_self (xs ys : List α) :
    appendNewBy key (appendNewBy key xs ys) ys = appendNewBy key xs ys :=
  appendNewBy_eq_self_iff.mpr fun _ hk => mem_map_appendNewBy.mpr (.inr hk)

theorem nodup_map_appendIfNew {xs : List α} (hxs : (xs.map key).Nodup) (y : α) :
    ((appendIfNew key xs y).map key).Nodup := by
  unfold appendIfNew
  split
  next => exact hxs
  next hnew =>
    rw [List.map_append, List.nodup_append]
    refine ⟨hxs, by simp, ?_⟩
    rintro a ha b hb rfl
    rw [List.map_singleton, List.mem_singleton] at hb
    exact hnew (hb ▸ ha)

theorem nodup_map_appendNewBy {xs : List α} (hxs : (xs.map key).Nodup) (ys : List α) :
    ((appendNewBy key xs ys).map key).Nodup := by
  induction ys generalizing xs with
  | nil => exact hxs
  | cons y ys ih => exact ih (nodup_map_appendIfNew hxs y)

end By

theorem lookup_appendIfNew {υ : Type} (xs : List (κ × υ)) (y : κ × υ) (k : κ) :
    (appendIfNew Prod.fst xs y).lookup k = (xs.lookup k).or ([y].lookup k) := by
  unfold appendIfNew
  split
  next hmem =>
    by_cases hk : k = y.1
    · obtain ⟨value, hvalue⟩ : ∃ value, xs.lookup k = some value := by
        rw [← Option.isSome_iff_exists, List.lookup_isSome_iff]
        obtain ⟨entry, hentry, heq⟩ := List.mem_map.mp hmem
        exact ⟨entry, hentry, by simp [heq, hk]⟩
      rw [hvalue, Option.some_or]
    · have hne : (k == y.1) = false := beq_eq_false_iff_ne.mpr hk
      have hnone : [y].lookup k = none := by rw [List.lookup_cons, hne, List.lookup_nil]
      rw [hnone, Option.or_none]
  next => rw [List.lookup_append]

theorem lookup_appendNewBy {υ : Type} (xs ys : List (κ × υ)) (k : κ) :
    (appendNewBy Prod.fst xs ys).lookup k = (xs.lookup k).or (ys.lookup k) := by
  induction ys generalizing xs with
  | nil => simp [appendNewBy]
  | cons y ys ih =>
    rw [appendNewBy_cons, ih, lookup_appendIfNew, Option.or_assoc, ← List.lookup_append]
    rfl

variable [DecidableEq α]

theorem prefix_appendNew (xs ys : List α) : xs <+: appendNew xs ys :=
  prefix_appendNewBy xs ys

theorem mem_appendNew {xs ys : List α} {a : α} :
    a ∈ appendNew xs ys ↔ a ∈ xs ∨ a ∈ ys := by
  have hmem : a ∈ (appendNewBy id xs ys).map id ↔ a ∈ xs.map id ∨ a ∈ ys.map id :=
    mem_map_appendNewBy
  rwa [List.map_id, List.map_id, List.map_id] at hmem

theorem nodup_appendNew (ys : List α) : (appendNew [] ys).Nodup := by
  have hnil : (([] : List α).map id).Nodup := List.nodup_nil
  have hnodup := nodup_map_appendNewBy hnil ys
  rwa [List.map_id] at hnodup

theorem appendNew_eq_self_iff {xs ys : List α} :
    appendNew xs ys = xs ↔ ∀ a ∈ ys, a ∈ xs := by
  rw [appendNew, appendNewBy_eq_self_iff, List.map_id, List.map_id]

theorem appendNew_cons (xs : List α) (y : α) (ys : List α) :
    appendNew xs (y :: ys) = appendNew (if y ∈ xs then xs else xs ++ [y]) ys := by
  change appendNewBy id (appendIfNew id xs y) ys = _
  rw [appendIfNew, List.map_id]
  rfl

theorem appendNew_eq_loop (xs ys : List α) :
    appendNew xs ys = List.eraseDupsBy.loop (· == ·) ys xs.reverse := by
  induction ys generalizing xs with
  | nil => exact xs.reverse_reverse.symm
  | cons y ys ih =>
    have hany : xs.reverse.any (y == ·) = decide (y ∈ xs) := by
      rw [List.any_reverse, List.any_beq, List.contains_eq_mem]
    rw [List.eraseDupsBy.loop, hany, appendNew_cons]
    by_cases hmem : y ∈ xs
    · simp only [hmem, if_true, decide_true]
      exact ih xs
    · simp only [hmem, if_false, decide_false]
      rw [ih, List.reverse_append]
      rfl

/-- What is added are the new elements, each at its first place. -/
theorem appendNew_eq_append [BEq α] [LawfulBEq α] (xs ys : List α) :
    appendNew xs ys = xs ++ (ys.filter (· ∉ xs)).eraseDups := by
  induction ys generalizing xs with
  | nil => exact (List.append_nil xs).symm
  | cons y ys ih =>
    rw [appendNew_cons, ih]
    by_cases hmem : y ∈ xs
    · simp [hmem]
    · have hrest : ys.filter (· ∉ xs ++ [y]) = (ys.filter (· ∉ xs)).filter fun a => !a == y := by
        rw [List.filter_filter]
        exact List.filter_congr fun a _ => by by_cases heq : a = y <;> simp [heq]
      rw [if_neg hmem, hrest, List.filter_cons_of_pos (by simp [hmem]), List.eraseDups_cons,
        List.append_assoc, List.singleton_append]

/-- Joined to nothing, a list keeps each element at its first place. -/
theorem appendNew_nil_left (ys : List α) : appendNew [] ys = ys.eraseDups :=
  appendNew_eq_loop [] ys

end SealedExchange.Sorted
