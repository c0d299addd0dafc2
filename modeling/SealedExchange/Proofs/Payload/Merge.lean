import SealedExchange.Proofs.Payload.WellFormed
import SealedExchange.Proofs.Sorted.Distinct

/-! # What merging keeps and adds

Merging into a well-formed payload never fails. Whatever it gives, the payload that stands
afterwards is the old one with more boxes at the end and, unless it is a legacy payload, their keys.
It is well formed again, and a key has the box it had before or, if it had none, the one of the
incoming payload. Merging the same payload once more adds nothing.
-/

namespace SealedExchange.Payload

variable {p q : Payload} {result : Option Payload}

/-- What stands after a merge with a result: the payload before, if there is no result. -/
def standing (existing : Payload) (result : Option Payload) : Payload := result.getD existing

@[simp] theorem standing_none (p : Payload) : p.standing none = p := rfl

@[simp] theorem standing_some (p merged : Payload) : p.standing (some merged) = merged := rfl

/-- What a merge does to a payload. -/
structure Extends (p q : Payload) : Prop where
  frame : q = { p with keys := q.keys, boxes := q.boxes }
  wellFormed : q.WellFormed
  boxes : p.boxes <+: q.boxes
  keys : ∀ key ∈ p.keys, key ∈ q.keys
  legacy : q.isLegacy = p.isLegacy

theorem Extends.refl (hwell : p.WellFormed) : p.Extends p :=
  ⟨rfl, hwell, List.prefix_rfl, fun _ hmem => hmem, rfl⟩

theorem Extends.trans {r : Payload} (h : p.Extends q) (h' : q.Extends r) : p.Extends r where
  frame := h'.frame.trans (by rw [h.frame])
  wellFormed := h'.wellFormed
  boxes := h.boxes.trans h'.boxes
  keys key hkey := h'.keys key (h.keys key hkey)
  legacy := h'.legacy.trans h.legacy

theorem isLegacy_iff : p.isLegacy = true ↔ p.keys = [] := List.isEmpty_iff

theorem not_isLegacy_iff : ¬p.isLegacy = true ↔ p.keys ≠ [] := not_congr isLegacy_iff

theorem not_isLegacy_of_boxFor? {key : PublicKey} {box : Bytes} (hbox : p.boxFor? key = some box) :
    ¬p.isLegacy = true :=
  not_isLegacy_iff.mpr (List.ne_nil_of_mem (mem_keys_of_boxFor?_eq_some hbox))

theorem Extends.mode (h : p.Extends q) : q.mode = p.mode := by
  rw [h.frame]

theorem Extends.affected (h : p.Extends q) : q.affected = p.affected := by
  rw [h.frame]

theorem Extends.sender (h : p.Extends q) : q.sender = p.sender := by
  rw [h.frame]

theorem Extends.cipherText (h : p.Extends q) : q.cipherText = p.cipherText := by
  rw [h.frame]

theorem Extends.nonce (h : p.Extends q) : q.nonce = p.nonce := by
  rw [h.frame]

theorem Extends.recipientNonce (h : p.Extends q) : q.recipientNonce = p.recipientNonce := by
  rw [h.frame]

theorem Extends.hash (h : p.Extends q) : q.hash = p.hash := by
  rw [Payload.hash, h.cipherText, Payload.hash]

/-! ## Legacy payloads -/

theorem merge_legacy (hlegacy : p.isLegacy = true) (hmerge : p.merge q = .ok result) :
    p.standing result = { p with boxes := Sorted.appendNew p.boxes q.boxes } := by
  rw [merge, if_pos hlegacy] at hmerge
  dsimp only at hmerge
  split at hmerge
  next hlength =>
    cases hmerge
    have heq := (Sorted.prefix_appendNew p.boxes q.boxes).eq_of_length hlength.symm
    rw [standing_none, ← heq]
  next =>
    obtain ⟨merged, hchecked, rfl⟩ := map_eq_ok_iff.mp hmerge
    obtain ⟨-, rfl⟩ := checked_eq_ok_iff.mp hchecked
    rfl

theorem merge_eq_of_legacy (hwell : p.WellFormed) (hlegacy : p.isLegacy = true) (q : Payload) :
    p.merge q = .ok (if ∀ box ∈ q.boxes, box ∈ p.boxes then none
      else some { p with boxes := Sorted.appendNew p.boxes q.boxes }) := by
  have hlength : (Sorted.appendNew p.boxes q.boxes).length = p.boxes.length ↔
      ∀ box ∈ q.boxes, box ∈ p.boxes := by
    rw [← Sorted.appendNew_eq_self_iff]
    refine ⟨fun heq => ?_, fun heq => by rw [heq]⟩
    exact ((Sorted.prefix_appendNew p.boxes q.boxes).eq_of_length heq.symm).symm
  have hmerged : ({ p with boxes := Sorted.appendNew p.boxes q.boxes } : Payload).WellFormed :=
    ⟨fun hne => absurd (isLegacy_iff.mp hlegacy) hne, hwell.mandatory_listed,
      hwell.mandatory_empty⟩
  rw [merge, if_pos hlegacy]
  simp only [hlength, checked_eq_ok_iff.mpr ⟨hmerged, rfl⟩, map_ok]
  split <;> rfl

/-! ## Payloads with keys -/

theorem merge_keyed_legacy (hkeyed : p.isLegacy ≠ true) (hlegacy : q.isLegacy = true)
    (hmerge : p.merge q = .ok result) : result = none := by
  rw [merge, if_neg hkeyed, if_pos hlegacy] at hmerge
  cases hmerge
  rfl

/-- The boxed keys of both payloads, those of the first one in front. -/
def joined (p q : Payload) : List (PublicKey × Bytes) :=
  Sorted.appendNewBy Prod.fst p.boxed q.boxed

theorem joined_length_eq_iff (hwell : p.WellFormed) (hkeyed : p.isLegacy ≠ true) :
    (p.joined q).length = p.boxes.length ↔ p.joined q = p.boxed := by
  -- A well-formed payload has a key for each box, so pairing them loses no box.
  have hlength : p.boxed.length = p.boxes.length := by
    rw [← List.length_map Prod.snd, hwell.boxed_boxes (not_isLegacy_iff.mp hkeyed)]
  rw [← hlength]
  refine ⟨fun heq => ?_, fun heq => by rw [heq]⟩
  exact ((Sorted.prefix_appendNewBy p.boxed q.boxed).eq_of_length heq.symm).symm

/-- The union of two payloads: the boxed keys of both in front and the other keys after them. -/
def union (p q : Payload) : Payload :=
  { p with
    keys := Sorted.appendNew ((p.joined q).map Prod.fst) (p.keys ++ q.keys)
    boxes := (p.joined q).map Prod.snd }

theorem mem_keys_union {key : PublicKey} :
    key ∈ (p.union q).keys ↔ key ∈ p.keys ∨ key ∈ q.keys := by
  have hboxed : key ∈ (p.joined q).map Prod.fst → key ∈ p.keys ∨ key ∈ q.keys := fun hmem =>
    (Sorted.mem_map_appendNewBy.mp hmem).imp mem_keys_of_mem_boxed mem_keys_of_mem_boxed
  rw [union, Sorted.mem_appendNew, List.mem_append]
  exact ⟨fun h => h.elim hboxed id, .inr⟩

theorem WellFormed.union (hwell : p.WellFormed) (q : Payload) : (p.union q).WellFormed := by
  refine ⟨fun _ => ?_, fun hmode key hkey => ?_, hwell.mandatory_empty⟩
  · have hle := (Sorted.prefix_appendNew ((p.joined q).map Prod.fst) (p.keys ++ q.keys)).length_le
    rw [List.length_map] at hle
    rwa [Payload.union, List.length_map]
  · exact mem_keys_union.mpr (.inl (hwell.mandatory_listed hmode key hkey))

theorem merge_eq_of_keyed (hwell : p.WellFormed) (hkeyed : p.isLegacy ≠ true)
    (hincoming : q.isLegacy ≠ true) :
    p.merge q = .ok (if p.joined q = p.boxed then none else some (p.union q)) := by
  have hchecked : (p.union q).checked = .ok (p.union q) :=
    checked_eq_ok_iff.mpr ⟨hwell.union q, rfl⟩
  rw [merge, if_neg hkeyed, if_neg hincoming]
  change (if (p.joined q).length = p.boxes.length then _ else (p.union q).checked.map some) = _
  simp only [joined_length_eq_iff hwell hkeyed, hchecked, map_ok]
  split <;> rfl

/-- Merging either finds no new box or lists the boxed keys first and the other keys after them. -/
theorem merge_keyed (hwell : p.WellFormed) (hkeyed : p.isLegacy ≠ true)
    (hincoming : q.isLegacy ≠ true) (hmerge : p.merge q = .ok result) :
    (result = none ∧ p.joined q = p.boxed) ∨
      ∃ further merged, result = some merged ∧ merged.WellFormed ∧
        merged = { p with
          keys := (p.joined q).map Prod.fst ++ further
          boxes := (p.joined q).map Prod.snd } ∧
        ∀ key, key ∈ merged.keys ↔ key ∈ p.keys ∨ key ∈ q.keys := by
  obtain rfl := Except.ok.inj ((merge_eq_of_keyed hwell hkeyed hincoming).symm.trans hmerge)
  split
  next heq => exact .inl ⟨rfl, heq⟩
  next =>
    obtain ⟨further, hfurther⟩ :=
      Sorted.prefix_appendNew ((p.joined q).map Prod.fst) (p.keys ++ q.keys)
    refine .inr ⟨further, _, rfl, hwell.union q, ?_, fun key => mem_keys_union⟩
    rw [hfurther]
    rfl

theorem boxed_standing (hwell : p.WellFormed) (hkeyed : p.isLegacy ≠ true)
    (hincoming : q.isLegacy ≠ true) (hmerge : p.merge q = .ok result) :
    (p.standing result).boxed = p.joined q := by
  rcases merge_keyed hwell hkeyed hincoming hmerge with ⟨rfl, heq⟩ | ⟨further, _, rfl, -, rfl, -⟩
  · exact heq.symm
  · exact boxed_of_split p (p.joined q) further

/-- A key has the box it had before or, if it had none, the one of the incoming payload. -/
theorem boxFor?_standing (hwell : p.WellFormed) (hkeyed : p.isLegacy ≠ true)
    (hincoming : q.isLegacy ≠ true) (hmerge : p.merge q = .ok result) (key : PublicKey) :
    (p.standing result).boxFor? key = (p.boxFor? key).or (q.boxFor? key) := by
  rw [boxFor?, boxed_standing hwell hkeyed hincoming hmerge, joined, Sorted.lookup_appendNewBy,
    boxFor?, boxFor?]

/-! ## Merging in general -/

theorem extends_standing_legacy (hwell : p.WellFormed) (hlegacy : p.isLegacy = true)
    (hmerge : p.merge q = .ok result) : p.Extends (p.standing result) := by
  rw [merge_legacy hlegacy hmerge]
  have hkeys : p.keys = [] := isLegacy_iff.mp hlegacy
  exact ⟨rfl, ⟨fun hne => absurd hkeys hne, hwell.mandatory_listed, hwell.mandatory_empty⟩,
    Sorted.prefix_appendNew _ _, fun _ hmem => hmem, rfl⟩

theorem extends_standing_keyed (hwell : p.WellFormed) (hkeyed : p.isLegacy ≠ true)
    (hincoming : q.isLegacy ≠ true) (hmerge : p.merge q = .ok result) :
    p.Extends (p.standing result) := by
  have hkeys : p.keys ≠ [] := not_isLegacy_iff.mp hkeyed
  rcases merge_keyed hwell hkeyed hincoming hmerge with
    ⟨rfl, -⟩ | ⟨further, merged, rfl, hmerged, hframe, hmem⟩
  · exact .refl hwell
  · have hkept : ∀ key ∈ p.keys, key ∈ merged.keys := fun key hkey => (hmem key).mpr (.inl hkey)
    refine ⟨by rw [standing_some, hframe], hmerged, ?_, hkept, ?_⟩
    · rw [standing_some, hframe, ← hwell.boxed_boxes hkeys]
      exact (Sorted.prefix_appendNewBy p.boxed q.boxed).map Prod.snd
    · obtain ⟨key, hkey⟩ := List.exists_mem_of_ne_nil _ hkeys
      have hne : merged.isLegacy ≠ true :=
        not_isLegacy_iff.mpr (List.ne_nil_of_mem (hkept key hkey))
      rw [standing_some, Bool.eq_false_iff.mpr hne, Bool.eq_false_iff.mpr hkeyed]

/-- Merging never breaks a payload and changes nothing but keys and boxes. -/
theorem extends_standing (hwell : p.WellFormed) (hmerge : p.merge q = .ok result) :
    p.Extends (p.standing result) := by
  by_cases hlegacy : p.isLegacy = true
  · exact extends_standing_legacy hwell hlegacy hmerge
  · by_cases hincoming : q.isLegacy = true
    · cases merge_keyed_legacy hlegacy hincoming hmerge
      exact .refl hwell
    · exact extends_standing_keyed hwell hlegacy hincoming hmerge

end SealedExchange.Payload
