import SealedExchange.Payload.Codec
import SealedExchange.Proofs.Sorted.Set
import SealedExchange.Proofs.Success

/-! # Well-formed payloads

What the check of a payload asks for, as a proposition. Every payload that was built or decoded
passes the check, and so does every copy that is made for a recipient or that loses claims.
-/

namespace SealedExchange

/-- The public key of equal bytes. -/
def PublicKey.filled (b : UInt8) : PublicKey :=
  ⟨List.replicate keyLength b, List.length_replicate⟩

namespace Payload

/-- A payload that passes its check. -/
structure WellFormed (p : Payload) : Prop where
  /-- Every box belongs to a key, unless no keys are listed. -/
  boxes_le : p.keys ≠ [] → p.boxes.length ≤ p.keys.length
  mandatory_listed : p.mode = .mandatoryRecipients → ∀ key ∈ p.mandatory, key ∈ p.keys
  mandatory_empty : p.mode ≠ .mandatoryRecipients → ∀ key, key ∉ p.mandatory

theorem check_eq_ok_iff {p : Payload} : p.check = .ok () ↔ p.WellFormed := by
  have hboxes : (p.keys ≠ [] ∧ p.keys.length < p.boxes.length) ↔
      ¬(p.keys ≠ [] → p.boxes.length ≤ p.keys.length) := by
    rw [Classical.not_imp, Nat.not_le]
  rw [check]
  split
  next hmany =>
    refine ⟨nofun, fun h => ?_⟩
    exact absurd h.boxes_le (hboxes.mp hmany)
  next hfew =>
    have hle := Classical.not_not.mp (mt hboxes.mpr hfew)
    split
    next hmode =>
      split
      next hall =>
        have hlisted : ∀ key ∈ p.mandatory, key ∈ p.keys := by
          simpa [SortedSet.mem_def] using hall
        exact iff_of_true rfl ⟨hle, fun _ => hlisted, fun hne => absurd hmode hne⟩
      next hall =>
        refine ⟨nofun, fun h => ?_⟩
        exact absurd (by simpa [SortedSet.mem_def] using h.mandatory_listed hmode) hall
    next hmode =>
      split
      next hempty =>
        exact iff_of_true rfl
          ⟨hle, fun heq => absurd heq hmode, fun _ => SortedSet.isEmpty_iff.mp hempty⟩
      next hempty =>
        refine ⟨nofun, fun h => ?_⟩
        exact absurd (SortedSet.isEmpty_iff.mpr (h.mandatory_empty hmode)) hempty

theorem checked_eq_ok_iff {p q : Payload} : p.checked = .ok q ↔ p.WellFormed ∧ p = q := by
  rw [checked, map_eq_ok_iff]
  constructor
  · rintro ⟨⟨⟩, hcheck, heq⟩
    exact ⟨check_eq_ok_iff.mp hcheck, heq⟩
  · rintro ⟨hwell, heq⟩
    exact ⟨(), check_eq_ok_iff.mpr hwell, heq⟩

theorem Draft.wellFormed_of_build {d : Draft} {p : Payload} (hbuild : d.build = .ok p) :
    p.WellFormed := by
  unfold Draft.build at hbuild
  split at hbuild
  · cases hbuild
  · cases hbuild
  · obtain ⟨hwell, rfl⟩ := checked_eq_ok_iff.mp hbuild
    exact hwell

/-! ## Boxes and their keys -/

theorem WellFormed.boxed_boxes {p : Payload} (hwell : p.WellFormed) (hkeys : p.keys ≠ []) :
    p.boxed.map Prod.snd = p.boxes :=
  List.map_snd_zip (hwell.boxes_le hkeys)

theorem mem_keys_of_mem_boxed {p : Payload} {key : PublicKey} (hmem : key ∈ p.boxed.map Prod.fst) :
    key ∈ p.keys := by
  obtain ⟨entry, hentry, rfl⟩ := List.mem_map.mp hmem
  exact (List.of_mem_zip hentry).1

theorem isSome_boxFor?_iff {p : Payload} {key : PublicKey} :
    (p.boxFor? key).isSome ↔ key ∈ p.boxed.map Prod.fst := by
  rw [boxFor?, List.lookup_isSome_iff, List.mem_map]
  exact exists_congr fun entry => and_congr_right fun _ => beq_iff_eq.trans eq_comm

/-- Listing boxed keys first, and any further keys after them, gives every key its box. -/
theorem boxed_of_split (p : Payload) (boxed : List (PublicKey × Bytes)) (further : List PublicKey) :
    ({ p with
      keys := boxed.map Prod.fst ++ further
      boxes := boxed.map Prod.snd } : Payload).boxed = boxed := by
  have hzip : (boxed.map Prod.fst ++ further).zip (boxed.map Prod.snd) = boxed := by
    induction boxed with
    | nil => simp
    | cons entry boxed ih => simp [ih]
  exact hzip

/-! ## Copies -/

theorem forRecipient_eq_some_iff {p copy : Payload} {key : PublicKey} :
    p.forRecipient key = some copy ↔ ∃ box, p.boxFor? key = some box ∧
      copy = { p with
        boxes := [box]
        keys := if p.mode = .standardPrivate then [key] else key :: p.keys.filter (· ≠ key) } := by
  rw [forRecipient, Option.map_eq_some_iff]
  exact exists_congr fun _ => and_congr_right fun _ => eq_comm

theorem exists_forRecipient {p : Payload} {key : PublicKey} {box : Bytes}
    (hbox : p.boxFor? key = some box) : ∃ copy, p.forRecipient key = some copy :=
  ⟨_, forRecipient_eq_some_iff.mpr ⟨box, hbox, rfl⟩⟩

/-- A copy has one box, that of its recipient. -/
theorem boxed_of_forRecipient {p copy : Payload} {key : PublicKey}
    (hcopy : p.forRecipient key = some copy) :
    ∃ box, p.boxFor? key = some box ∧ copy.boxed = [(key, box)] := by
  obtain ⟨box, hbox, rfl⟩ := forRecipient_eq_some_iff.mp hcopy
  refine ⟨box, hbox, ?_⟩
  rw [boxed]
  dsimp only
  split
  · rfl
  · rw [List.zip_cons_cons, List.zip_nil_right]

theorem keys_ne_nil_of_forRecipient {p copy : Payload} {key : PublicKey}
    (hcopy : p.forRecipient key = some copy) : copy.keys ≠ [] := by
  obtain ⟨box, hbox, rfl⟩ := forRecipient_eq_some_iff.mp hcopy
  dsimp only
  split
  · exact List.cons_ne_nil _ _
  · exact List.cons_ne_nil _ _

theorem mem_keys_of_boxFor?_eq_some {p : Payload} {key : PublicKey} {box : Bytes}
    (hbox : p.boxFor? key = some box) : key ∈ p.keys :=
  mem_keys_of_mem_boxed (isSome_boxFor?_iff.mp (Option.isSome_iff_exists.mpr ⟨box, hbox⟩))

/-- Outside standard mode a copy is for the same set of keys as the payload. -/
theorem keySet_forRecipient {p copy : Payload} {key : PublicKey}
    (hmode : p.mode ≠ .standardPrivate) (hcopy : p.forRecipient key = some copy) :
    copy.keySet = p.keySet := by
  obtain ⟨box, hbox, rfl⟩ := forRecipient_eq_some_iff.mp hcopy
  have hlisted := mem_keys_of_boxFor?_eq_some hbox
  refine SortedSet.ofList_congr fun other => ?_
  rw [if_neg hmode, List.mem_cons, List.mem_filter, decide_eq_true_iff]
  constructor
  · rintro (rfl | ⟨hother, -⟩)
    · exact hlisted
    · exact hother
  · intro hother
    exact (Classical.em (other = key)).imp_right fun hne => ⟨hother, hne⟩

theorem WellFormed.forRecipient {p copy : Payload} {key : PublicKey} (hwell : p.WellFormed)
    (hcopy : p.forRecipient key = some copy) : copy.WellFormed := by
  obtain ⟨box, hbox, rfl⟩ := forRecipient_eq_some_iff.mp hcopy
  refine ⟨fun _ => ?_, fun hmode other hother => ?_, hwell.mandatory_empty⟩
  · dsimp only
    split <;> exact Nat.succ_le_succ (Nat.zero_le _)
  · have hstandard : p.mode ≠ .standardPrivate := by
      intro heq
      rw [show p.mode = .mandatoryRecipients from hmode] at heq
      cases heq
    have hlisted := hwell.mandatory_listed hmode other hother
    change other ∈ if p.mode = .standardPrivate then [key] else key :: p.keys.filter (· ≠ key)
    rw [if_neg hstandard]
    by_cases heq : other = key
    · exact heq ▸ List.mem_cons_self
    · exact .tail _ (List.mem_filter.mpr ⟨hlisted, decide_eq_true heq⟩)

/-- What a payload claims about other messages is not part of its check. -/
theorem WellFormed.withClaims {p : Payload} (hwell : p.WellFormed)
    (affected : SortedMap MessageHash SecurityHash) : ({ p with affected } : Payload).WellFormed :=
  ⟨hwell.boxes_le, hwell.mandatory_listed, hwell.mandatory_empty⟩

end Payload

theorem Codec.wellFormed_of_decode {codec : Codec} {bytes : Bytes} {p : Payload}
    (hdecode : codec.decode bytes = .ok p) : p.WellFormed := by
  obtain ⟨q, -, hchecked⟩ := bind_eq_ok_iff.mp hdecode
  obtain ⟨hwell, rfl⟩ := Payload.checked_eq_ok_iff.mp (mapError_eq_ok_iff.mp hchecked)
  exact hwell

end SealedExchange
