import SealedExchange.Proofs.Payload.RoundTrip
import SealedExchange.Proofs.Payload.WellFormed
import SealedExchange.Store.Basic

/-! # What the operations of a store do

An operation succeeds when the store is not broken and, for saving, when the hash is free. It then
concerns the record of one hash only.
-/

namespace SealedExchange

namespace Store

variable {ρ : Type} {s s' : Store ρ} {hash : MessageHash}

theorem access_eq_ok_iff {records : SortedMap MessageHash ρ} :
    s.access = .ok records ↔ s.fault = none ∧ s.records = records := by
  rw [access]
  cases s.fault <;> simp

theorem retrieve_eq_ok_iff {found : Option ρ} :
    s.retrieve hash = .ok found ↔ s.fault = none ∧ s.records.get? hash = found := by
  rw [retrieve, map_eq_ok_iff]
  constructor
  · rintro ⟨records, haccess, hget⟩
    obtain ⟨hfault, rfl⟩ := access_eq_ok_iff.mp haccess
    exact ⟨hfault, hget⟩
  · rintro ⟨hfault, hget⟩
    exact ⟨s.records, access_eq_ok_iff.mpr ⟨hfault, rfl⟩, hget⟩

theorem find_eq_ok_iff {hashes : List MessageHash} {found : List ρ} :
    s.find hashes = .ok found ↔ s.fault = none ∧ hashes.filterMap s.records.get? = found := by
  rw [find, map_eq_ok_iff]
  constructor
  · rintro ⟨records, haccess, hfind⟩
    obtain ⟨hfault, rfl⟩ := access_eq_ok_iff.mp haccess
    exact ⟨hfault, hfind⟩
  · rintro ⟨hfault, hfind⟩
    exact ⟨s.records, access_eq_ok_iff.mpr ⟨hfault, rfl⟩, hfind⟩

theorem delete_eq_ok_iff :
    s.delete hash = .ok s' ↔ s.fault = none ∧ s' = { s with records := s.records.erase hash } := by
  rw [delete, map_eq_ok_iff]
  constructor
  · rintro ⟨records, haccess, rfl⟩
    obtain ⟨hfault, rfl⟩ := access_eq_ok_iff.mp haccess
    exact ⟨hfault, rfl⟩
  · rintro ⟨hfault, rfl⟩
    exact ⟨s.records, access_eq_ok_iff.mpr ⟨hfault, rfl⟩, rfl⟩

variable [Record ρ] {record : ρ}

theorem update_eq_ok_iff : s.update record = .ok s' ↔ s.fault = none ∧
    s' = { s with records := s.records.insert (Record.hash record) record } := by
  rw [update, map_eq_ok_iff]
  constructor
  · rintro ⟨records, haccess, rfl⟩
    obtain ⟨hfault, rfl⟩ := access_eq_ok_iff.mp haccess
    exact ⟨hfault, rfl⟩
  · rintro ⟨hfault, rfl⟩
    exact ⟨s.records, access_eq_ok_iff.mpr ⟨hfault, rfl⟩, rfl⟩

theorem save_eq_ok_iff : s.save record = .ok s' ↔ s.fault = none ∧
    s.records.get? (Record.hash record) = none ∧
      s' = { s with records := s.records.insert (Record.hash record) record } := by
  rw [save, bind_eq_ok_iff]
  constructor
  · rintro ⟨records, haccess, hsave⟩
    obtain ⟨hfault, rfl⟩ := access_eq_ok_iff.mp haccess
    split at hsave
    next => cases hsave
    next hfree =>
      cases hsave
      rw [SortedMap.contains_eq_isSome, Option.not_isSome_iff_eq_none] at hfree
      exact ⟨hfault, hfree, rfl⟩
  · rintro ⟨hfault, hfree, rfl⟩
    refine ⟨s.records, access_eq_ok_iff.mpr ⟨hfault, rfl⟩, ?_⟩
    rw [if_neg (by rw [SortedMap.contains_eq_isSome, hfree]; exact Bool.false_ne_true)]

end Store

/-! ## Records of payloads -/

namespace EncryptedTransaction

theorem ofPayload_eq_ok_iff {p : Payload} {codec : Codec} {record : EncryptedTransaction} :
    ofPayload p codec = .ok record ↔
      ∃ bytes, codec.encode p = .ok bytes ∧ record = ⟨p.hash, bytes, codec⟩ := by
  rw [ofPayload, bind_eq_ok_iff]
  constructor
  · rintro ⟨bytes, hencode, hrecord⟩
    cases hrecord
    exact ⟨bytes, hencode, rfl⟩
  · rintro ⟨bytes, hencode, rfl⟩
    exact ⟨bytes, hencode, rfl⟩

/-- The record of a well-formed payload gives the payload back. -/
theorem payload_of_ofPayload {p : Payload} {codec : Codec} {record : EncryptedTransaction}
    (hwell : p.WellFormed) (hrecord : ofPayload p codec = .ok record) :
    record.payload = .ok p := by
  obtain ⟨bytes, hencode, rfl⟩ := ofPayload_eq_ok_iff.mp hrecord
  exact Codec.decode_of_encode (Payload.check_eq_ok_iff.mpr hwell) hencode

theorem wellFormed_of_payload {record : EncryptedTransaction} {p : Payload}
    (hpayload : record.payload = .ok p) : p.WellFormed :=
  Codec.wellFormed_of_decode hpayload

/-- The record of a payload as JSON. -/
def asJson (p : Payload) : EncryptedTransaction :=
  ⟨p.hash, (Payload.Json.document p).render, .json⟩

theorem ofPayload_json {p : Payload} (hclaims : p.affected.isEmpty = true) :
    ofPayload p .json = .ok (asJson p) := by
  rw [ofPayload, Codec.encode, Payload.Json.encode, if_pos hclaims]
  rfl

theorem payload_asJson {p : Payload} (hcheck : p.check = .ok ())
    (hclaims : p.affected.isEmpty = true) : (asJson p).payload = .ok p :=
  payload_of_ofPayload (Payload.check_eq_ok_iff.mp hcheck) (ofPayload_json hclaims)

end EncryptedTransaction

end SealedExchange
