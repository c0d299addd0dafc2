import SealedExchange.Proofs.Payload.Merge

/-! # The union of two payloads

Merging two payloads that list keys unites them: every key of either one is listed and has its first
box. A legacy payload takes over the boxes it does not have, and one that lists keys takes nothing
over from a legacy payload. After a merge, merging the same payload again finds nothing new.
-/

namespace SealedExchange.Payload

variable {p q : Payload} {result : Option Payload}

/-! ## What is new -/

/-- Joining adds nothing exactly if every key with a box had one. -/
theorem joined_eq_boxed_iff : p.joined q = p.boxed ↔
    ∀ key, (q.boxFor? key).isSome → (p.boxFor? key).isSome := by
  simp only [isSome_boxFor?_iff]
  exact Sorted.appendNewBy_eq_self_iff

/-! ## Merging again -/

theorem merge_standing_legacy (hwell : p.WellFormed) (hlegacy : p.isLegacy = true)
    (hmerge : p.merge q = .ok result) : (p.standing result).merge q = .ok none := by
  have hextends := extends_standing hwell hmerge
  rw [merge_eq_of_legacy hextends.wellFormed (hextends.legacy.trans hlegacy), if_pos]
  intro box hbox
  rw [merge_legacy hlegacy hmerge]
  exact Sorted.mem_appendNew.mpr (.inr hbox)

theorem merge_standing_keyed (hwell : p.WellFormed) (hkeyed : p.isLegacy ≠ true)
    (hincoming : q.isLegacy ≠ true) (hmerge : p.merge q = .ok result) :
    (p.standing result).merge q = .ok none := by
  have hextends := extends_standing hwell hmerge
  rw [merge_eq_of_keyed hextends.wellFormed (hextends.legacy ▸ hkeyed) hincoming, if_pos]
  rw [joined, boxed_standing hwell hkeyed hincoming hmerge]
  exact Sorted.appendNewBy_appendNewBy_self p.boxed q.boxed

/-- Once a payload was merged, merging it again finds nothing new. -/
theorem merge_standing (hwell : p.WellFormed) (hmerge : p.merge q = .ok result) :
    (p.standing result).merge q = .ok none := by
  by_cases hlegacy : p.isLegacy = true
  · exact merge_standing_legacy hwell hlegacy hmerge
  · by_cases hincoming : q.isLegacy = true
    · obtain rfl := merge_keyed_legacy hlegacy hincoming hmerge
      exact hmerge
    · exact merge_standing_keyed hwell hlegacy hincoming hmerge

/-- A payload has nothing new for itself. -/
theorem merge_self (hwell : p.WellFormed) : p.merge p = .ok none := by
  by_cases hlegacy : p.isLegacy = true
  · rw [merge_eq_of_legacy hwell hlegacy, if_pos fun _ hbox => hbox]
  · rw [merge_eq_of_keyed hwell hlegacy hlegacy, if_pos (joined_eq_boxed_iff.mpr fun _ h => h)]

theorem mem_keys_of_standing (hwell : p.WellFormed) (hmerge : p.merge q = .ok result)
    {key : PublicKey} (hkey : key ∈ (p.standing result).keys) : key ∈ p.keys ∨ key ∈ q.keys := by
  by_cases hlegacy : p.isLegacy = true
  · rw [merge_legacy hlegacy hmerge] at hkey
    exact .inl hkey
  · by_cases hincoming : q.isLegacy = true
    · obtain rfl := merge_keyed_legacy hlegacy hincoming hmerge
      exact .inl hkey
    · rcases merge_keyed hwell hlegacy hincoming hmerge with
        ⟨rfl, -⟩ | ⟨_, merged, rfl, -, -, hmem⟩
      · exact .inl hkey
      · exact (hmem key).mp hkey

/-! ## Every merge -/

theorem exists_merge (hwell : p.WellFormed) (q : Payload) : ∃ result, p.merge q = .ok result := by
  by_cases hlegacy : p.isLegacy = true
  · exact ⟨_, merge_eq_of_legacy hwell hlegacy q⟩
  · by_cases hincoming : q.isLegacy = true
    · exact ⟨none, by rw [merge, if_neg hlegacy, if_pos hincoming]⟩
    · exact ⟨_, merge_eq_of_keyed hwell hlegacy hincoming⟩

/-- What merging an incoming payload into an existing one gives. -/
structure Unites (existing incoming : Payload) (result : Option Payload) : Prop where
  /-- A result is well formed, has the old boxes in front, and is like the existing payload in all
  but keys and boxes. -/
  kept : ∀ merged, result = some merged → existing.Extends merged
  /-- Between payloads with keys, there is no result exactly if every key with a box had one. -/
  keyed_none : existing.keys ≠ [] → incoming.keys ≠ [] →
    (result = none ↔ ∀ key, (incoming.boxFor? key).isSome → (existing.boxFor? key).isSome)
  /-- The box that a key had takes precedence. -/
  keyed_boxFor? : existing.keys ≠ [] → incoming.keys ≠ [] → ∀ merged, result = some merged →
    ∀ key, merged.boxFor? key = (existing.boxFor? key).or (incoming.boxFor? key)
  keyed_keys : existing.keys ≠ [] → incoming.keys ≠ [] → ∀ merged, result = some merged →
    ∀ key, key ∈ merged.keys ↔ key ∈ existing.keys ∨ key ∈ incoming.keys
  /-- A legacy payload has no result exactly if it has every box already. -/
  legacy_none : existing.keys = [] →
    (result = none ↔ ∀ box ∈ incoming.boxes, box ∈ existing.boxes)
  /-- A legacy payload stays one and takes over each new box at its first place. -/
  legacy_some : existing.keys = [] → ∀ merged, result = some merged → merged.keys = [] ∧
    merged.boxes =
      existing.boxes ++ (incoming.boxes.filter (· ∉ existing.boxes)).eraseDups
  /-- The boxes of a legacy payload belong to no key, so there is nothing to take over. -/
  unattributed : existing.keys ≠ [] → incoming.keys = [] → result = none
  /-- Merging again finds nothing new. -/
  settled : (existing.standing result).merge incoming = .ok none

/-- Merging into a well-formed payload succeeds and unites the two. -/
theorem unites_of_merge (hwell : p.WellFormed) (q : Payload) :
    ∃ result, p.merge q = .ok result ∧ p.Unites q result := by
  obtain ⟨result, hmerge⟩ := exists_merge hwell q
  have hkeyed (hp : p.keys ≠ []) (hq : q.keys ≠ []) :
      (if p.joined q = p.boxed then none else some (p.union q)) = result := by
    have heq := merge_eq_of_keyed hwell (not_isLegacy_iff.mpr hp) (not_isLegacy_iff.mpr hq)
    exact Except.ok.inj (heq.symm.trans hmerge)
  have hlegacy (hp : p.keys = []) : (if ∀ box ∈ q.boxes, box ∈ p.boxes then none
      else some { p with boxes := Sorted.appendNew p.boxes q.boxes }) = result :=
    Except.ok.inj ((merge_eq_of_legacy hwell (isLegacy_iff.mpr hp) q).symm.trans hmerge)
  refine ⟨result, hmerge, ?_⟩
  constructor
  case kept =>
    rintro merged rfl
    exact extends_standing hwell hmerge
  case keyed_none =>
    intro hp hq
    rw [← hkeyed hp hq, ← joined_eq_boxed_iff]
    simp
  case keyed_boxFor? =>
    rintro hp hq merged rfl key
    exact boxFor?_standing hwell (not_isLegacy_iff.mpr hp) (not_isLegacy_iff.mpr hq) hmerge key
  case keyed_keys =>
    rintro hp hq merged rfl key
    obtain ⟨-, heq⟩ := Option.ite_none_left_eq_some.mp (hkeyed hp hq)
    rw [← Option.some.inj heq, mem_keys_union]
  case legacy_none =>
    intro hp
    rw [← hlegacy hp]
    simp
  case legacy_some =>
    rintro hp merged rfl
    obtain ⟨-, heq⟩ := Option.ite_none_left_eq_some.mp (hlegacy hp)
    obtain rfl := Option.some.inj heq
    exact ⟨hp, Sorted.appendNew_eq_append p.boxes q.boxes⟩
  case unattributed =>
    intro hp hq
    exact merge_keyed_legacy (not_isLegacy_iff.mpr hp) (isLegacy_iff.mpr hq) hmerge
  case settled => exact merge_standing hwell hmerge

/-! ## A key without a box -/

/-- A payload for two keys, of which the second one has no box. -/
def halfBoxed : Payload where
  sender := .filled 1
  cipherText := [7]
  nonce := []
  boxes := [[10]]
  recipientNonce := []
  keys := [.filled 1, .filled 2]

/-- A payload with boxes for another key, for the key that had none and, once more, for the one that
had one; then a key is repeated. -/
def moreBoxed : Payload :=
  { halfBoxed with
    boxes := [[20], [21], [22]]
    keys := [.filled 3, .filled 2, .filled 1, .filled 2, .filled 4] }

/-- The key that had no box gets its own, although another key comes first. -/
theorem unites_of_merge_halfBoxed : halfBoxed.WellFormed ∧ ∃ merged,
    halfBoxed.merge moreBoxed = .ok (some merged) ∧ merged.boxes = [[10], [20], [21]] ∧
      merged.keys = [.filled 1, .filled 3, .filled 2, .filled 4] ∧
      halfBoxed.Unites moreBoxed (some merged) := by
  have hwell : halfBoxed.WellFormed := check_eq_ok_iff.mp rfl
  obtain ⟨result, hmerge, hunites⟩ := unites_of_merge hwell moreBoxed
  have hmerged : halfBoxed.merge moreBoxed = .ok (some (halfBoxed.union moreBoxed)) := rfl
  obtain rfl := Except.ok.inj (hmerge.symm.trans hmerged)
  exact ⟨hwell, _, hmerge, by decide +kernel, by decide +kernel, hunites⟩

end SealedExchange.Payload
