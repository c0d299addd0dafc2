import SealedExchange.Proofs.Exchange.Admission
import SealedExchange.Proofs.Payload.Union

/-! # Deliveries that are repeated

A payload that was taken in stands in the store with all it brings, so taking it in again finds
nothing to change, whatever the first delivery has found and whatever the second one makes of the
payload's claims. Only a payload that makes a claim about itself may be judged differently the
second time, since the first delivery has stored what it claims about.
-/

namespace SealedExchange

namespace Privacy

variable {s s' : Store EncryptedTransaction} {p : Payload}

/-- Claims are resolved by the records of the claimed messages alone. -/
theorem resolveClaims_congr (hfault : s'.fault = s.fault)
    (hget : ∀ hash ∈ p.affected.keys, s'.records.get? hash = s.records.get? hash) :
    resolveClaims s' p = resolveClaims s p := by
  have hfind : s'.find p.affected.keys = s.find p.affected.keys := by
    have hrecords : p.affected.keys.filterMap s'.records.get? =
        p.affected.keys.filterMap s.records.get? := List.filterMap_congr hget
    rw [Store.find, Store.find, Store.access, Store.access, hfault]
    cases s.fault with
    | some e => rfl
    | none => simp only [map_ok, hrecords]
  have hload : load s' p.affected.keys = load s p.affected.keys := by rw [load, load, hfind]
  simp only [resolveClaims, hload]

end Privacy

namespace Vault

variable {v v' : Vault} {p left q : Payload}

/-- What is stored of a payload has nothing to gain from it and lists no key that private state
validation would miss in it. -/
structure Covers (q p : Payload) : Prop where
  cipherText : q.cipherText = p.cipherText
  keys : q.mode = .privateStateValidation ∨ p.mode = .privateStateValidation →
    ∀ key ∈ q.keys, key ∈ p.keys
  merge : q.merge p = .ok none

theorem Combines.covers {stored : Option EncryptedTransaction} (h : Combines p stored q)
    (hwell : p.WellFormed) : Covers q p := by
  refine ⟨h.cipherText, ?_, ?_⟩
  · cases h with
    | new => exact fun _ _ hkey => hkey
    | merged hpayload _ hkeys hmerge =>
      have hq := EncryptedTransaction.wellFormed_of_payload hpayload
      rw [(Payload.extends_standing hq hmerge).mode]
      intro hmode key hkey
      exact (Payload.mem_keys_of_standing hq hmerge hkey).elim (hkeys hmode key) id
  · cases h with
    | new => exact Payload.merge_self hwell
    | merged hpayload _ _ hmerge =>
      exact Payload.merge_standing (EncryptedTransaction.wellFormed_of_payload hpayload) hmerge

/-- Claims make no difference to what a payload brings. -/
theorem Covers.withClaims (h : Covers q p) (affected : SortedMap MessageHash SecurityHash) :
    Covers q { p with affected } :=
  ⟨h.cipherText, h.keys, h.merge⟩

theorem Covers.changeFor (h : Covers q p) {record : EncryptedTransaction}
    (hpayload : record.payload = .ok q) (codec : Codec) :
    changeFor codec p (some record) = .ok .keep := by
  have hmissing : ¬((q.mode = .privateStateValidation ∨ p.mode = .privateStateValidation) ∧
      q.keys.any (· ∉ p.keys) = true) := by
    rintro ⟨hmode, hany⟩
    obtain ⟨key, hkey, hnot⟩ := List.any_eq_true.mp hany
    exact of_decide_eq_true hnot (h.keys hmode key hkey)
  rw [Vault.changeFor, hpayload, mapError_ok, ok_bind, mergeInto,
    if_neg (Classical.not_not.mpr h.cipherText), if_neg hmissing, h.merge]
  rfl

/-- After a delivery that was not ignored, the store covers what was left of the payload. -/
theorem exists_covers_of_apply (hwell : left.WellFormed) {codec : Codec} {change : StoreChange}
    {s s' : Store EncryptedTransaction}
    (hchange : Vault.changeFor codec left (s.records.get? left.hash) = .ok change)
    (happly : change.apply s = .ok s') :
    ∃ record q, s'.records.get? left.hash = some record ∧ record.payload = .ok q ∧
      Covers q left ∧ ∀ hash, hash ≠ left.hash → s'.records.get? hash = s.records.get? hash := by
  obtain ⟨record, q, hcombines, hpayload, -, hget⟩ := exists_record_of_apply hwell hchange happly
  exact ⟨record, q, (hget left.hash).trans (if_pos rfl), hpayload, hcombines.covers hwell,
    fun hash hne => (hget hash).trans (if_neg hne)⟩

/-- A vault whose store covers a payload stays as it is when the payload is delivered. -/
theorem eq_of_storePayload {hash : MessageHash} {record : EncryptedTransaction}
    (hget : v.messages.records.get? p.hash = some record) (hpayload : record.payload = .ok q)
    (hcovers : Covers q p) (hstore : v.storePayload p = .ok (hash, v')) : v' = v := by
  obtain ⟨-, ⟨-, rfl⟩ | ⟨left, change, messages, hscreens, -, hchange, happly, rfl⟩⟩ :=
    storePayload_eq_ok_iff.mp hstore
  · rfl
  · have hleft : Covers q left := by
      rw [hscreens.left_eq]
      exact hcovers.withClaims left.affected
    rw [hget, hleft.changeFor hpayload] at hchange
    cases hchange
    cases happly
    rfl

/-- A delivery that fails or changes nothing leaves the vault as it is. -/
theorem storeMany_eq_self (hsame : ∀ hash v', v.storePayload p = .ok (hash, v') → v' = v) :
    (v.storeMany [p]).2 = v := by
  cases hstore : v.storePayload p with
  | error e => rw [storeMany_of_error hstore]
  | ok stored =>
    obtain ⟨hash, v'⟩ := stored
    simp only [storeMany, hstore]
    exact hsame hash v' hstore

/-- A payload whose delivery has succeeded changes nothing when it is delivered again. The second
delivery succeeds as well, unless the payload makes a claim about itself. -/
theorem settled_of_storePayload {hash : MessageHash} (hwell : p.WellFormed)
    (hstore : v.storePayload p = .ok (hash, v')) :
    (v'.storeMany [p]).2 = v' ∧
      (hash ∉ p.affected.keys → v'.storePayload p = .ok (hash, v')) := by
  obtain ⟨rfl, ⟨hignored, rfl⟩ | ⟨left, change, messages, hscreens, hfault, hchange, happly,
    rfl⟩⟩ := storePayload_eq_ok_iff.mp hstore
  · refine ⟨storeMany_eq_self fun hash v'' hagain => ?_, fun _ => hstore⟩
    cases hstore.symm.trans hagain
    rfl
  · rw [← hscreens.left_hash] at hchange
    obtain ⟨record, q, hget, hpayload, hcovers, hothers⟩ :=
      exists_covers_of_apply (hscreens.left_wellFormed hwell) hchange happly
    rw [hscreens.left_hash] at hget hothers
    refine ⟨storeMany_eq_self fun hash v'' hagain => ?_, fun hnot => ?_⟩
    · have hp : Covers q p := by
        have heq : p = { left with affected := p.affected } := by rw [hscreens.left_eq]
        rw [heq]
        exact hcovers.withClaims p.affected
      exact eq_of_storePayload hget hpayload hp hagain
    -- Claims about other messages are resolved and judged as they were the first time.
    · obtain ⟨affected, hresolve, hscreen⟩ := hscreens
      have hagain := Privacy.resolveClaims_congr (p := p) (fault_of_apply happly)
        fun hash hmem => hothers hash fun heq => hnot (heq ▸ hmem)
      refine storePayload_eq_ok_iff.mpr ⟨rfl, .inr ⟨left, .keep, messages,
        ⟨affected, hagain.trans hresolve, hscreen⟩, (fault_of_apply happly).trans hfault, ?_, rfl,
        rfl⟩⟩
      rw [hget]
      exact hcovers.changeFor hpayload _

/-- The second copy of a message, which was merged into the first one, changes nothing any more. -/
theorem settled_of_storePayload_secondCopy : secondCopy.WellFormed ∧ ∃ hash v',
    keepingFirst.storePayload secondCopy = .ok (hash, v') ∧
      (∃ other, v'.messages.records.get? other ≠ keepingFirst.messages.records.get? other) ∧
      hash ∉ secondCopy.affected.keys ∧ (v'.storeMany [secondCopy]).2 = v' ∧
      v'.storePayload secondCopy = .ok (hash, v') := by
  have hwell : secondCopy.WellFormed := Payload.check_eq_ok_iff.mp rfl
  obtain ⟨hash, v', hstore, hchanged⟩ := exists_changed_keepingFirst
  have hnot : hash ∉ secondCopy.affected.keys := List.not_mem_nil
  obtain ⟨hsame, hagain⟩ := settled_of_storePayload hwell hstore
  exact ⟨hwell, hash, v', hstore, hchanged, hnot, hsame, hagain hnot⟩

end Vault

end SealedExchange
