import SealedExchange.Proofs.Payload.Merge

/-! # Copies that are merged again

The copy of a payload for a key has one box. Merging such copies gathers the boxes of their keys,
whatever the order and however often a copy comes, and nothing but keys and boxes differs from the
whole payload.
-/

namespace SealedExchange.Payload

variable {p q left : Payload} {key : PublicKey} {result : Option Payload}
  {accepted accepted' : PublicKey → Prop}

/-- What is left of the copy of a payload for a key when it has lost claims. -/
def Leaves (p : Payload) (key : PublicKey) (left : Payload) : Prop :=
  ∃ copy, p.forRecipient key = some copy ∧ left = { copy with affected := left.affected }

theorem Leaves.keys_ne_nil (h : p.Leaves key left) : left.keys ≠ [] := by
  obtain ⟨copy, hcopy, hleft⟩ := h
  have hkeys := keys_ne_nil_of_forRecipient hcopy
  rw [hleft]
  exact hkeys

theorem Leaves.wellFormed (h : p.Leaves key left) (hwell : p.WellFormed) : left.WellFormed := by
  obtain ⟨copy, hcopy, hleft⟩ := h
  rw [hleft]
  exact (hwell.forRecipient hcopy).withClaims left.affected

theorem Leaves.frame (h : p.Leaves key left) :
    left = { p with keys := left.keys, boxes := left.boxes, affected := left.affected } := by
  obtain ⟨copy, hcopy, hleft⟩ := h
  obtain ⟨box, -, rfl⟩ := forRecipient_eq_some_iff.mp hcopy
  rw [hleft]

theorem Leaves.hash (h : p.Leaves key left) : left.hash = p.hash := by
  rw [h.frame]
  rfl

/-- The copy for a key has the key's box and no other. -/
theorem Leaves.boxFor? (h : p.Leaves key left) (other : PublicKey) :
    left.boxFor? other = if other = key then p.boxFor? key else none := by
  obtain ⟨copy, hcopy, hleft⟩ := h
  obtain ⟨box, hbox, hboxed⟩ := boxed_of_forRecipient hcopy
  have hboxed : left.boxed = [(key, box)] := by
    rw [hleft]
    exact hboxed
  rw [Payload.boxFor?, hboxed, hbox]
  split
  next heq => rw [heq, List.lookup_cons_self]
  next hne => rw [List.lookup_cons, beq_eq_false_iff_ne.mpr hne, List.lookup_nil]

/-- A payload with the boxes of exactly the accepted keys of another one, which is like it
otherwise. -/
structure Gathers (p : Payload) (accepted : PublicKey → Prop) (q : Payload) : Prop where
  cipherText : q.cipherText = p.cipherText
  sender : q.sender = p.sender
  nonce : q.nonce = p.nonce
  recipientNonce : q.recipientNonce = p.recipientNonce
  mode : q.mode = p.mode
  keyed : q.keys ≠ []
  /-- An accepted key has its box. -/
  boxFor? : ∀ key, accepted key → q.boxFor? key = p.boxFor? key
  /-- No other key has a box. -/
  boxFor?_eq_none : ∀ key, ¬accepted key → q.boxFor? key = none

theorem Leaves.gathers (h : p.Leaves key left) (haccepted : ∀ other, accepted other ↔ other = key) :
    p.Gathers accepted left := by
  refine ⟨by rw [h.frame], by rw [h.frame], by rw [h.frame], by rw [h.frame], by rw [h.frame],
    h.keys_ne_nil, fun other hother => ?_, fun other hother => ?_⟩
  · have heq := (haccepted other).mp hother
    rw [h.boxFor?, if_pos heq, heq]
  · rw [h.boxFor?, if_neg (mt (haccepted other).mpr hother)]

/-- Merging one more copy gathers one more key. -/
theorem Gathers.merge (h : p.Gathers accepted q) (hwell : q.WellFormed)
    (hleaves : p.Leaves key left) (hmerge : q.merge left = .ok result)
    (haccepted : ∀ other, accepted' other ↔ accepted other ∨ other = key) :
    p.Gathers accepted' (q.standing result) := by
  have hextends := extends_standing hwell hmerge
  have hkeyed := not_isLegacy_iff.mpr h.keyed
  have hbox := boxFor?_standing hwell hkeyed (not_isLegacy_iff.mpr hleaves.keys_ne_nil) hmerge
  refine ⟨hextends.cipherText.trans h.cipherText, hextends.sender.trans h.sender,
    hextends.nonce.trans h.nonce, hextends.recipientNonce.trans h.recipientNonce,
    hextends.mode.trans h.mode, ?_, fun other hother => ?_, fun other hother => ?_⟩
  · rw [← not_isLegacy_iff, hextends.legacy]
    exact hkeyed
  · rw [hbox, hleaves.boxFor?]
    by_cases hold : accepted other
    · rw [h.boxFor? other hold]
      split
      next heq => rw [heq, Option.or_self]
      next => rw [Option.or_none]
    · have heq := ((haccepted other).mp hother).resolve_left hold
      rw [h.boxFor?_eq_none other hold, if_pos heq, Option.none_or, heq]
  · have hnot := not_or.mp (mt (haccepted other).mpr hother)
    rw [hbox, h.boxFor?_eq_none other hnot.1, hleaves.boxFor?, if_neg hnot.2, Option.none_or]

end SealedExchange.Payload
