import SealedExchange.Proofs.Sorted.Set
import SealedExchange.Sorted.Map

/-! # Looking up and rebuilding sorted maps

A sorted map is determined by its lookups. Every operation is described by what it does to them,
and listing a map and building it again gives the same map.
-/

namespace SealedExchange.SortedMap

variable {κ υ : Type} [Ord κ] [DecidableEq κ]

@[simp] theorem get?_empty (key : κ) : (empty : SortedMap κ υ).get? key = none := rfl

theorem contains_eq_isSome (m : SortedMap κ υ) (key : κ) :
    m.contains key = (m.get? key).isSome := by
  rw [contains, get?, Option.isSome_map, List.isSome_find?]

theorem mem_keys_iff (m : SortedMap κ υ) (key : κ) : key ∈ m.keys ↔ (m.get? key).isSome := by
  simp [keys, get?]

theorem get?_filter_of_keep (m : SortedMap κ υ) (keep : κ → υ → Bool) {key : κ}
    (hkeep : ∀ value, keep key value = true) : (m.filter keep).get? key = m.get? key := by
  simp only [get?, filter, List.find?_filter]
  congr 2
  funext entry
  by_cases heq : entry.1 = key
  · simp [heq, hkeep]
  · simp [heq]

theorem get?_filter_of_drop (m : SortedMap κ υ) (keep : κ → υ → Bool) {key : κ}
    (hdrop : ∀ value, keep key value = false) : (m.filter keep).get? key = none := by
  rw [get?, Option.map_eq_none_iff, List.find?_eq_none]
  rintro ⟨other, value⟩ hentry heq
  obtain rfl : other = key := by simpa using heq
  have hkept := (List.mem_filter.mp hentry).2
  rw [hdrop value] at hkept
  cases hkept

theorem get?_erase (m : SortedMap κ υ) (key other : κ) :
    (m.erase key).get? other = if other = key then none else m.get? other := by
  split
  next heq => exact m.get?_filter_of_drop _ fun _ => by simpa using heq
  next hne => exact m.get?_filter_of_keep _ fun _ => by simpa using hne

theorem get?_mapValues {ω : Type} (m : SortedMap κ υ) (f : κ → υ → ω) (key : κ) :
    (m.mapValues f).get? key = (m.get? key).map (f key) := by
  simp only [get?, mapValues, List.find?_map, Option.map_map]
  cases hfind : m.entries.find? fun entry => entry.1 = key with
  | none => simp [Function.comp_def, hfind]
  | some entry =>
    have hkey : entry.1 = key := by simpa using List.find?_some hfind
    simp [Function.comp_def, hfind, hkey]

section Order

variable [Std.TransOrd κ] [Std.LawfulEqOrd κ]

omit [Std.TransOrd κ] in
theorem find?_insertEntry (key other : κ) (value : υ) (entries : List (κ × υ)) :
    ((insertEntry key value entries).find? fun entry => entry.1 = other).map (·.2) =
      if other = key then some value
      else (entries.find? fun entry => entry.1 = other).map (·.2) := by
  induction entries with
  | nil => by_cases heq : other = key <;> simp [insertEntry, heq, eq_comm]
  | cons head rest ih =>
    rw [insertEntry]
    split
    next => by_cases heq : other = key <;> simp [heq, eq_comm]
    next hcompare =>
      have hkey : key = head.1 := Std.LawfulEqCmp.eq_of_compare hcompare
      by_cases heq : other = key <;> simp [heq, ← hkey, eq_comm]
    next hcompare =>
      have hne : head.1 ≠ key := by
        rintro rfl
        simp at hcompare
      by_cases hhead : head.1 = other
      · have hother : ¬other = key := fun heq => hne (hhead.trans heq)
        simp [hhead, hother]
      · simpa [hhead] using ih

theorem get?_insert (m : SortedMap κ υ) (key other : κ) (value : υ) :
    (m.insert key value).get? other = if other = key then some value else m.get? other :=
  find?_insertEntry key other value m.entries

theorem get?_insertAll (m : SortedMap κ υ) (entries : List (κ × υ)) (key : κ) :
    (m.insertAll entries).get? key =
      ((entries.reverse.find? fun entry => entry.1 = key).map (·.2)).or (m.get? key) := by
  induction entries generalizing m with
  | nil => simp [insertAll]
  | cons head rest ih =>
    have hstep := ih (m.insert head.1 head.2)
    rw [insertAll, List.foldl_cons, ← insertAll, hstep, get?_insert, List.reverse_cons,
      List.find?_append]
    by_cases heq : key = head.1
    · cases hrest : rest.reverse.find? fun entry => entry.1 = key <;> simp [heq]
    · have hne : ¬head.1 = key := fun h => heq h.symm
      cases hrest : rest.reverse.find? fun entry => entry.1 = key <;> simp [heq, hne]

/-- A list in which equal keys have equal values is looked up by membership. -/
theorem get?_ofList_eq_some_iff {entries : List (κ × υ)}
    (hfunction : ∀ a ∈ entries, ∀ b ∈ entries, a.1 = b.1 → a.2 = b.2) (key : κ) (value : υ) :
    (ofList entries).get? key = some value ↔ (key, value) ∈ entries := by
  rw [ofList, get?_insertAll, get?_empty, Option.or_none]
  constructor
  · intro hfind
    obtain ⟨entry, hentry, rfl⟩ := Option.map_eq_some_iff.mp hfind
    have hkey : entry.1 = key := by simpa using List.find?_some hentry
    have hmem := List.mem_reverse.mp (List.mem_of_find?_eq_some hentry)
    rwa [← hkey]
  · intro hmem
    have hsome : (entries.reverse.find? fun entry => entry.1 = key).isSome := by
      rw [List.find?_isSome]
      exact ⟨(key, value), List.mem_reverse.mpr hmem, by simp⟩
    obtain ⟨entry, hentry⟩ := Option.isSome_iff_exists.mp hsome
    have hkey : entry.1 = key := by simpa using List.find?_some hentry
    have hentryMem := List.mem_reverse.mp (List.mem_of_find?_eq_some hentry)
    rw [hentry]
    exact congrArg some (hfunction entry hentryMem (key, value) hmem hkey)

/-- Of entries with the same key the first one counts. -/
theorem get?_ofListFirst (entries : List (κ × υ)) (key : κ) :
    (ofListFirst entries).get? key = entries.lookup key := by
  rw [ofListFirst, ofList, get?_insertAll, get?_empty, Option.or_none, List.reverse_reverse]
  induction entries with
  | nil => rfl
  | cons head rest ih =>
    rw [List.lookup_cons, ← ih]
    by_cases heq : head.1 = key
    · simp [heq]
    · have hne : (key == head.1) = false := beq_eq_false_iff_ne.mpr (Ne.symm heq)
      simp [heq, hne]

theorem mem_keys_ofList {entries : List (κ × υ)} {key : κ} :
    key ∈ (ofList entries).keys ↔ key ∈ entries.map (·.1) := by
  rw [mem_keys_iff, ofList, get?_insertAll, get?_empty, Option.or_none, Option.isSome_map,
    List.find?_isSome]
  simp

omit [DecidableEq κ] [Std.LawfulEqOrd κ] in
theorem insertEntry_of_forall_lt {key : κ} {value : υ} {entries : List (κ × υ)}
    (hlt : ∀ entry ∈ entries, compare entry.1 key = .lt) :
    insertEntry key value entries = entries ++ [(key, value)] := by
  induction entries with
  | nil => rfl
  | cons head rest ih =>
    have hgt : compare key head.1 = .gt :=
      Std.OrientedCmp.gt_of_lt (hlt head List.mem_cons_self)
    rw [insertEntry, hgt, List.cons_append, ih fun entry hmem => hlt entry (.tail _ hmem)]

omit [DecidableEq κ] in
theorem entries_insertAll_of_sorted (m : SortedMap κ υ) {entries : List (κ × υ)}
    (hsorted : (m.entries ++ entries).Pairwise fun a b => compare a.1 b.1 = .lt) :
    (m.insertAll entries).entries = m.entries ++ entries := by
  induction entries generalizing m with
  | nil => simp [insertAll]
  | cons head rest ih =>
    have hinsert : (m.insert head.1 head.2).entries = m.entries ++ [head] := by
      refine insertEntry_of_forall_lt fun entry hmem => ?_
      exact (List.pairwise_append.mp hsorted).2.2 entry hmem head List.mem_cons_self
    have hrest := ih (m.insert head.1 head.2) (by rw [hinsert]; simpa using hsorted)
    rw [insertAll, List.foldl_cons, ← insertAll, hrest, hinsert, List.append_assoc]
    rfl

omit [DecidableEq κ] [Std.TransOrd κ] [Std.LawfulEqOrd κ] in
theorem eq_of_entries_eq {a b : SortedMap κ υ} (h : a.entries = b.entries) : a = b := by
  cases a
  cases b
  cases h
  rfl

omit [DecidableEq κ] in
/-- Building a map from its own entries gives the map. -/
@[simp] theorem ofList_entries (m : SortedMap κ υ) : ofList m.entries = m := by
  apply eq_of_entries_eq
  exact entries_insertAll_of_sorted empty (by simpa [empty] using m.sorted)

omit [DecidableEq κ] in
@[simp] theorem ofListFirst_entries (m : SortedMap κ υ) : ofListFirst m.entries = m := by
  apply eq_of_entries_eq
  rw [ofListFirst, ofList, insertAll, List.foldl_reverse]
  obtain ⟨entries, hsorted⟩ := m
  dsimp only
  induction entries with
  | nil => rfl
  | cons head rest ih =>
    obtain ⟨hhead, hrest⟩ := List.pairwise_cons.mp hsorted
    rw [List.foldr_cons]
    change insertEntry head.1 head.2 (List.foldr _ empty rest).entries = _
    rw [ih hrest]
    -- The later entries are there already, so each one comes before the first of them.
    cases rest with
    | nil => rfl
    | cons next rest => rw [insertEntry, hhead next List.mem_cons_self]

/-! ## Lookups determine a map -/

omit [DecidableEq κ] [Std.LawfulEqOrd κ] in
theorem nodup_keys (m : SortedMap κ υ) : m.keys.Nodup := by
  rw [keys, List.nodup_iff_pairwise_ne, List.pairwise_map]
  refine m.sorted.imp fun {a b} hlt heq => ?_
  have hself : compare b.1 b.1 = .eq := Std.ReflCmp.compare_self
  rw [heq, hself] at hlt
  cases hlt

omit [DecidableEq κ] [Std.LawfulEqOrd κ] in
theorem value_unique (m : SortedMap κ υ) :
    ∀ a ∈ m.entries, ∀ b ∈ m.entries, a.1 = b.1 → a.2 = b.2 := by
  intro a ha b hb hkey
  rw [List.inj_on_of_nodup_map m.nodup_keys ha hb hkey]

theorem mem_entries_iff (m : SortedMap κ υ) (key : κ) (value : υ) :
    (key, value) ∈ m.entries ↔ m.get? key = some value := by
  have hget := get?_ofList_eq_some_iff m.value_unique key value
  rwa [ofList_entries, Iff.comm] at hget

theorem ext_get? {a b : SortedMap κ υ} (hget : ∀ key, a.get? key = b.get? key) : a = b := by
  refine eq_of_entries_eq (SortedSet.eq_of_mem_iff_of_sorted a.sorted b.sorted ?_)
  rintro ⟨key, value⟩
  rw [mem_entries_iff, mem_entries_iff, hget]

/-- The order in which the entries of a map are listed does not matter. -/
theorem ofList_of_perm {m : SortedMap κ υ} {entries : List (κ × υ)}
    (hperm : entries.Perm m.entries) : ofList entries = m := by
  have hfunction : ∀ a ∈ entries, ∀ b ∈ entries, a.1 = b.1 → a.2 = b.2 := by
    intro a ha b hb
    exact m.value_unique a (hperm.mem_iff.mp ha) b (hperm.mem_iff.mp hb)
  refine ext_get? fun key => Option.ext fun value => ?_
  rw [get?_ofList_eq_some_iff hfunction, hperm.mem_iff, mem_entries_iff]

/-! ## What a list of entries leaves -/

omit [DecidableEq κ] [Std.TransOrd κ] [Std.LawfulEqOrd κ] in
theorem length_insertEntry_le (key : κ) (value : υ) (entries : List (κ × υ)) :
    (insertEntry key value entries).length ≤ entries.length + 1 := by
  induction entries with
  | nil => exact Nat.le_refl 1
  | cons head rest ih =>
    rw [insertEntry]
    split
    next => exact Nat.le_refl _
    next => exact Nat.le_succ _
    next => exact Nat.succ_le_succ ih

omit [DecidableEq κ] in
theorem mem_insertAll {m : SortedMap κ υ} {entries : List (κ × υ)} {entry : κ × υ}
    (hmem : entry ∈ (m.insertAll entries).entries) : entry ∈ m.entries ∨ entry ∈ entries := by
  induction entries generalizing m with
  | nil => exact .inl hmem
  | cons head rest ih =>
    rcases ih (m := m.insert head.1 head.2) hmem with hmem | hmem
    · rcases mem_insertEntry hmem with heq | hmem
      · exact .inr (heq ▸ List.mem_cons_self)
      · exact .inl hmem
    · exact .inr (.tail _ hmem)

omit [DecidableEq κ] in
theorem length_insertAll_le (m : SortedMap κ υ) (entries : List (κ × υ)) :
    (m.insertAll entries).entries.length ≤ m.entries.length + entries.length := by
  induction entries generalizing m with
  | nil => exact Nat.le_refl _
  | cons head rest ih =>
    have hrest := ih (m.insert head.1 head.2)
    have hinsert := length_insertEntry_le head.1 head.2 m.entries
    change ((m.insert head.1 head.2).insertAll rest).entries.length ≤ _
    change _ ≤ (insertEntry head.1 head.2 m.entries).length + rest.length at hrest
    rw [List.length_cons]
    omega

omit [DecidableEq κ] in
theorem mem_of_mem_ofList {entries : List (κ × υ)} {entry : κ × υ}
    (hmem : entry ∈ (ofList entries).entries) : entry ∈ entries :=
  (mem_insertAll hmem).resolve_left List.not_mem_nil

omit [DecidableEq κ] in
theorem length_ofList_le (entries : List (κ × υ)) :
    (ofList entries).entries.length ≤ entries.length := by
  have hle := length_insertAll_le empty entries
  rwa [show (empty : SortedMap κ υ).entries.length = 0 from rfl, Nat.zero_add] at hle

end Order

end SealedExchange.SortedMap
