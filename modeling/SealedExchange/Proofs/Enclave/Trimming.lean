import SealedExchange.Proofs.Enclave.Opening
import SealedExchange.Proofs.Payload.Gathering

/-! # The copy for a recipient

A payload has a copy for exactly the keys that have a box. The copy shows the box of its recipient
alone and, of the keys, what the mode lets the recipient see. It passes the check again, a copy of
it for the same recipient is the copy itself, and it opens for the recipient as the whole payload
does, in every enclave and with the same error where it does not open.
-/

namespace SealedExchange

namespace Payload

variable {p copy : Payload} {key : PublicKey}

theorem forRecipient_eq_none_iff : p.forRecipient key = none ↔ p.boxFor? key = none :=
  Option.map_eq_none_iff

/-- The box of the recipient is the only one in its copy. -/
theorem boxFor?_forRecipient (hcopy : p.forRecipient key = some copy) (other : PublicKey) :
    copy.boxFor? other = if other = key then p.boxFor? key else none :=
  Leaves.boxFor? ⟨copy, hcopy, rfl⟩ other

theorem keys_forRecipient (hcopy : p.forRecipient key = some copy) :
    copy.keys = if p.mode = .standardPrivate then [key] else key :: p.keys.filter (· ≠ key) := by
  obtain ⟨_, -, rfl⟩ := forRecipient_eq_some_iff.mp hcopy
  rfl

theorem head?_keys_forRecipient (hcopy : p.forRecipient key = some copy) :
    copy.keys.head? = some key := by
  rw [keys_forRecipient hcopy]
  split <;> rfl

/-- Where the other keys stay, the recipient's own is listed once, however often it was. -/
theorem count_keys_forRecipient (hcopy : p.forRecipient key = some copy) :
    copy.keys.count key = 1 := by
  have hrest : (p.keys.filter (· ≠ key)).count key = 0 := by
    rw [List.count_eq_zero]
    intro hmem
    exact of_decide_eq_true (List.mem_filter.mp hmem).2 rfl
  rw [keys_forRecipient hcopy]
  split
  · rw [List.count_singleton_self]
  · rw [List.count_cons_self, hrest]

/-- Nothing is left to trim in a copy. -/
theorem forRecipient_forRecipient (hcopy : p.forRecipient key = some copy) :
    copy.forRecipient key = some copy := by
  obtain ⟨box, hbox, hboxed⟩ := boxed_of_forRecipient hcopy
  have hlookup : copy.boxFor? key = some box := by
    rw [boxFor?_forRecipient hcopy, if_pos rfl, hbox]
  refine forRecipient_eq_some_iff.mpr ⟨box, hlookup, ?_⟩
  obtain ⟨box', hbox', rfl⟩ := forRecipient_eq_some_iff.mp hcopy
  cases hbox.symm.trans hbox'
  by_cases hmode : p.mode = .standardPrivate
  · simp only [hmode, if_true]
  · have hothers : (key :: p.keys.filter (· ≠ key)).filter (· ≠ key) =
        p.keys.filter (· ≠ key) := by
      rw [List.filter_cons_of_neg (by simp), List.filter_filter]
      simp only [Bool.and_self]
    simp only [hmode, if_false, hothers]

end Payload

/-- A copy opens for its recipient as the whole payload does. -/
theorem Enclave.decrypt_forRecipient (e : Enclave) {p copy : Payload} {key : PublicKey}
    (hcopy : p.forRecipient key = some copy) : e.decrypt copy key = e.decrypt p key := by
  have hbox : copy.boxFor? key = p.boxFor? key := by
    rw [Payload.boxFor?_forRecipient hcopy, if_pos rfl]
  have hkeyed : ¬copy.isLegacy = true :=
    Payload.not_isLegacy_iff.mpr (Payload.keys_ne_nil_of_forRecipient hcopy)
  obtain ⟨box, hsome, rfl⟩ := Payload.forRecipient_eq_some_iff.mp hcopy
  have hkeyed' : ¬p.isLegacy = true := Payload.not_isLegacy_of_boxFor? hsome
  rw [decrypt, decrypt, boxToOpen, boxToOpen, if_neg hkeyed, if_neg hkeyed', hbox]

namespace Payload

variable {p : Payload}

/-- A payload is what the recipient with a key may see of another one. -/
structure Trims (p : Payload) (key : PublicKey) (copy : Payload) : Prop where
  check : copy.check = .ok ()
  hash : copy.hash = p.hash
  /-- Mode, claims, execution hash, mandatory recipients and group are those of the payload. -/
  metadata : copy.toMetadata = p.toMetadata
  sender : copy.sender = p.sender
  cipherText : copy.cipherText = p.cipherText
  nonce : copy.nonce = p.nonce
  recipientNonce : copy.recipientNonce = p.recipientNonce
  first : copy.keys.head? = some key
  boxFor?_key : copy.boxFor? key = p.boxFor? key
  boxFor?_other : ∀ other, other ≠ key → copy.boxFor? other = none
  keys_standard : p.mode = .standardPrivate → copy.keys = [key]
  /-- Outside standard mode everybody stays listed, and the recipient is listed once. -/
  keys_other : p.mode ≠ .standardPrivate → copy.keySet = p.keySet ∧ copy.keys.count key = 1
  again : copy.forRecipient key = some copy
  decrypt : ∀ e : Enclave, e.decrypt copy key = e.decrypt p key

/-- A payload that passes its check has a copy for exactly the keys that have a box, and such a copy
is what the recipient with the key may see of the payload. -/
theorem trims_of_check (hcheck : p.check = .ok ()) (key : PublicKey) :
    (p.forRecipient key = none ↔ p.boxFor? key = none) ∧
      ∀ copy, p.forRecipient key = some copy → p.Trims key copy := by
  refine ⟨forRecipient_eq_none_iff, fun copy hcopy => ?_⟩
  have hwell := (check_eq_ok_iff.mp hcheck).forRecipient hcopy
  have hbox := boxFor?_forRecipient hcopy
  have hkeys := keys_forRecipient hcopy
  obtain ⟨box, -, heq⟩ := forRecipient_eq_some_iff.mp hcopy
  refine
    { check := check_eq_ok_iff.mpr hwell
      hash := by rw [heq, Payload.hash, Payload.hash]
      metadata := by rw [heq]
      sender := by rw [heq]
      cipherText := by rw [heq]
      nonce := by rw [heq]
      recipientNonce := by rw [heq]
      first := head?_keys_forRecipient hcopy
      boxFor?_key := (hbox key).trans (if_pos rfl)
      boxFor?_other := fun other hne => (hbox other).trans (if_neg hne)
      keys_standard := fun hmode => hkeys.trans (if_pos hmode)
      keys_other := fun hmode =>
        ⟨keySet_forRecipient hmode hcopy, count_keys_forRecipient hcopy⟩
      again := forRecipient_forRecipient hcopy
      decrypt := fun e => e.decrypt_forRecipient hcopy }

/-- A payload with a mandatory recipient who has no box, and with one key that is listed twice. -/
def roster : Payload where
  mode := .mandatoryRecipients
  mandatory := SortedSet.empty.insert (.filled 3)
  sender := .filled 1
  cipherText := [7]
  nonce := []
  boxes := [[1], [2]]
  recipientNonce := []
  keys := [.filled 1, .filled 2, .filled 1, .filled 3]

/-- The copy for the second key of the roster. -/
def rosterCopy : Payload :=
  { roster with
    boxes := [[2]]
    keys := [.filled 2, .filled 1, .filled 1, .filled 3] }

/-- The copy keeps the mandatory recipient, who has no copy of its own. -/
theorem trims_of_check_roster : roster.check = .ok () ∧
    roster.forRecipient (.filled 3) = none ∧ roster.Trims (.filled 2) rosterCopy := by
  have hcheck : roster.check = .ok () := by decide +kernel
  have hcopy : roster.forRecipient (.filled 2) = some rosterCopy := by decide +kernel
  have hnone : roster.boxFor? (.filled 3) = none := by decide +kernel
  exact ⟨hcheck, (trims_of_check hcheck (.filled 3)).1.mpr hnone,
    (trims_of_check hcheck (.filled 2)).2 rosterCopy hcopy⟩

end Payload

end SealedExchange
