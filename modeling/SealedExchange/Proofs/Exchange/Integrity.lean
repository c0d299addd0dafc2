import Mathlib.Logic.Relation
import SealedExchange.Proofs.Enclave.Sealing
import SealedExchange.Proofs.Exchange.Delivery

/-! # Integrity of the two stores

However a vault is used, its records stay readable: each is filed under its own hash, decodes to a
well-formed payload in the codec it names, and that payload has the hash it is filed under. The
codec of new records may change between any two requests.
-/

namespace SealedExchange

/-- A payload that a codec or a draft has accepted. -/
inductive Payload.Accepted (p : Payload) : Prop
  | decoded {codec : Codec} {bytes : Bytes} (hdecode : codec.decode bytes = .ok p)
  | built {d : Payload.Draft} (hbuild : d.build = .ok p)

theorem Payload.Accepted.wellFormed {p : Payload} (h : p.Accepted) : p.WellFormed := by
  cases h with
  | decoded hdecode => exact Codec.wellFormed_of_decode hdecode
  | built hbuild => exact Draft.wellFormed_of_build hbuild

namespace Vault

/-- A request that succeeds, or a change of the codec for new records. A request that fails changes
nothing. -/
inductive Step : Vault → Vault → Prop
  | send {v : Vault} {request : SendRequest} {sent : Sent} {entropy entropy' : Entropy}
      (hsend : v.send request entropy = (.ok sent, entropy')) : Step v sent.vault
  | sendSigned {v : Vault} {request : SendSignedRequest} {sent : Sent} {entropy entropy' : Entropy}
      (hsend : v.sendSigned request entropy = (.ok sent, entropy')) : Step v sent.vault
  | storeRaw {v v' : Vault} {message : Bytes} {sender : Option PublicKey} {hash : MessageHash}
      {entropy entropy' : Entropy}
      (hstore : v.storeRaw message sender entropy = (.ok (hash, v'), entropy')) : Step v v'
  | storePayload {v v' : Vault} {p : Payload} {hash : MessageHash} (haccepted : p.Accepted)
      (hstore : v.storePayload p = .ok (hash, v')) : Step v v'
  | delete {v v' : Vault} {hash : MessageHash} (hdelete : v.delete hash = .ok v') : Step v v'
  | recode (v : Vault) (codec : Codec) : Step v { v with codec }

/-- The stores of a vault are as they should be. -/
structure Intact (v : Vault) : Prop where
  /-- A record is filed under its hash and decodes to a payload of that hash that passes its
  check. -/
  messages : ∀ hash record, v.messages.records.get? hash = some record →
    record.hash = hash ∧ ∃ p, record.payload = .ok p ∧ p.hash = hash ∧
      p.check = .ok () ∧ p.WellFormed
  /-- A raw record is filed under the hash of its encrypted payload. -/
  raws : ∀ hash record, v.raws.records.get? hash = some record →
    hash.bytes = Crypto.Sha512.digest record.encryptedPayload

theorem Intact.of_empty {v : Vault} (hmessages : v.messages.records = .empty)
    (hraws : v.raws.records = .empty) : v.Intact := by
  constructor
  · intro hash record hget
    rw [hmessages, SortedMap.get?_empty] at hget
    cases hget
  · intro hash record hget
    rw [hraws, SortedMap.get?_empty] at hget
    cases hget

variable {v v' : Vault} {p : Payload}

/-- Putting one more sound record in its place keeps the messages as they should be. -/
theorem Intact.insert (h : v.Intact) {record : EncryptedTransaction} (hhash : record.hash = p.hash)
    (hpayload : record.payload = .ok p)
    (hmessages : ∀ hash, v'.messages.records.get? hash =
      if hash = p.hash then some record else v.messages.records.get? hash)
    (hraws : v'.raws = v.raws) : v'.Intact := by
  refine ⟨fun hash other hget => ?_, by rw [hraws]; exact h.raws⟩
  rw [hmessages] at hget
  split at hget
  next heq =>
    cases hget
    have hwell := EncryptedTransaction.wellFormed_of_payload hpayload
    exact ⟨hhash.trans heq.symm, p, hpayload, heq.symm, Payload.check_eq_ok_iff.mpr hwell, hwell⟩
  next => exact h.messages hash other hget

/-! ## Sending -/

theorem Intact.persist (h : v.Intact) (hwell : p.WellFormed) {recipients : List PublicKey}
    {sent : Sent} (hpersist : v.persist p recipients = .ok sent) : sent.vault.Intact := by
  obtain ⟨record, hrecord, hpersist⟩ := bind_eq_ok_iff.mp hpersist
  obtain ⟨messages, hmessages, hpersist⟩ := bind_eq_ok_iff.mp hpersist
  have hrecord := mapError_eq_ok_iff.mp hrecord
  obtain ⟨-, -, rfl⟩ := Store.save_eq_ok_iff.mp (mapError_eq_ok_iff.mp hmessages)
  have hhash : record.hash = p.hash := by
    obtain ⟨bytes, -, rfl⟩ := EncryptedTransaction.ofPayload_eq_ok_iff.mp hrecord
    rfl
  cases hpersist
  refine h.insert hhash (EncryptedTransaction.payload_of_ofPayload hwell hrecord)
    (fun hash => ?_) rfl
  rw [← hhash]
  exact SortedMap.get?_insert v.messages.records record.hash hash record

theorem Intact.send (h : v.Intact) {request : SendRequest} {sent : Sent}
    {entropy entropy' : Entropy} (hsend : v.send request entropy = (.ok sent, entropy')) :
    sent.vault.Intact := by
  obtain ⟨prepared, _, -, hsend⟩ := Drawing.bind_eq_ok_iff.mp hsend
  obtain ⟨p, _, hencrypt, hsend⟩ := Drawing.bind_eq_ok_iff.mp hsend
  obtain ⟨draws, hseal⟩ :=
    Enclave.exists_sealWith_of_encryptPayload (Drawing.mapError_eq_ok_iff.mp hencrypt)
  exact h.persist (Enclave.wellFormed_of_sealWith hseal) (Drawing.ofExcept_eq_ok_iff.mp hsend).1

theorem Intact.sendSigned (h : v.Intact) {request : SendSignedRequest} {sent : Sent}
    {entropy entropy' : Entropy} (hsend : v.sendSigned request entropy = (.ok sent, entropy')) :
    sent.vault.Intact := by
  obtain ⟨found, _, -, hsend⟩ := Drawing.bind_eq_ok_iff.mp hsend
  cases found with
  | none => cases (Drawing.ofExcept_eq_ok_iff.mp hsend).1
  | some record =>
    obtain ⟨prepared, _, -, hsend⟩ := Drawing.bind_eq_ok_iff.mp hsend
    obtain ⟨p, _, hencrypt, hsend⟩ := Drawing.bind_eq_ok_iff.mp hsend
    obtain ⟨masterKey, recipientNonce, -, haddress⟩ :=
      Enclave.exists_addressWith_of_encryptRawPayload (Drawing.mapError_eq_ok_iff.mp hencrypt)
    exact h.persist (Enclave.wellFormed_of_addressWith haddress)
      (Drawing.ofExcept_eq_ok_iff.mp hsend).1

/-! ## Storing -/

theorem Intact.storeRaw (h : v.Intact) {message : Bytes} {sender : Option PublicKey}
    {hash : MessageHash} {entropy entropy' : Entropy}
    (hstore : v.storeRaw message sender entropy = (.ok (hash, v'), entropy')) : v'.Intact := by
  obtain ⟨raw, _, -, hstore⟩ := Drawing.bind_eq_ok_iff.mp hstore
  obtain ⟨raws, _, hraws, hstore⟩ := Drawing.bind_eq_ok_iff.mp hstore
  obtain ⟨-, -, rfl⟩ := Store.save_eq_ok_iff.mp
    (mapError_eq_ok_iff.mp (Drawing.ofExcept_eq_ok_iff.mp hraws).1)
  cases hstore
  refine ⟨h.messages, fun other record hget => ?_⟩
  rw [SortedMap.get?_insert] at hget
  split at hget
  next heq =>
    cases hget
    rw [heq]
    rfl
  next => exact h.raws other record hget

theorem Intact.storePayload (h : v.Intact) (haccepted : p.Accepted) {hash : MessageHash}
    (hstore : v.storePayload p = .ok (hash, v')) : v'.Intact := by
  obtain ⟨rfl, hcases⟩ := storePayload_eq_ok_iff.mp hstore
  obtain ⟨-, rfl⟩ | ⟨left, change, messages, hscreens, -, hchange, happly, rfl⟩ := hcases
  · exact h
  · have hwell := hscreens.left_wellFormed haccepted.wellFormed
    rw [← hscreens.left_hash] at hchange
    obtain ⟨record, q, hcombines, hpayload, hhash, hmessages⟩ :=
      exists_record_of_apply hwell hchange happly
    have hq : q.hash = left.hash := by
      rw [Payload.hash, hcombines.cipherText, Payload.hash]
    have hrecord : record.hash = left.hash := by
      rcases hhash with hhash | hstored
      · exact hhash
      · exact (h.messages _ _ hstored).1
    exact h.insert (hrecord.trans hq.symm) hpayload (by rw [hq]; exact hmessages) rfl

theorem Intact.delete (h : v.Intact) {hash : MessageHash} (hdelete : v.delete hash = .ok v') :
    v'.Intact := by
  obtain ⟨messages, hmessages, hdelete⟩ := bind_eq_ok_iff.mp hdelete
  obtain ⟨-, rfl⟩ := Store.delete_eq_ok_iff.mp (mapError_eq_ok_iff.mp hmessages)
  cases hdelete
  refine ⟨fun other record hget => ?_, h.raws⟩
  rw [SortedMap.get?_erase] at hget
  split at hget
  next => cases hget
  next => exact h.messages other record hget

/-! ## Runs -/

theorem Intact.step (h : v.Intact) (hstep : Step v v') : v'.Intact := by
  cases hstep with
  | send hsend => exact h.send hsend
  | sendSigned hsend => exact h.sendSigned hsend
  | storeRaw hstore => exact h.storeRaw hstore
  | storePayload haccepted hstore => exact h.storePayload haccepted hstore
  | delete hdelete => exact h.delete hdelete
  | recode codec => exact ⟨h.messages, h.raws⟩

/-- The stores of a vault are as they should be after any requests to a vault that had no records,
with the codec changed at will. -/
theorem intact_of_run (hmessages : v.messages.records = .empty) (hraws : v.raws.records = .empty)
    (hrun : Relation.ReflTransGen Step v v') : v'.Intact := by
  induction hrun with
  | refl => exact .of_empty hmessages hraws
  | tail _ hstep ih => exact ih.step hstep

/-! ## A run -/

/-- A payload with one box for its sender. -/
def note : Payload where
  sender := .filled 1
  cipherText := [7]
  nonce := []
  boxes := [[1]]
  recipientNonce := []
  keys := [.filled 1]

theorem accepted_note : note.Accepted :=
  .built (d :=
    { sender := some note.sender
      cipherText := some note.cipherText
      boxes := note.boxes
      keys := note.keys }) rfl

/-- A bystander after it has taken in the note. -/
def noted : Vault :=
  bystander { records := SortedMap.empty.insert note.hash (.asJson note) }

/-- A vault takes in a payload after its codec was changed, and its codec changes once more. -/
theorem intact_of_run_note :
    (noted.messages.records.get? note.hash).isSome ∧ { noted with codec := .bincode }.Intact := by
  have hrecoded : Step { bystander {} with codec := .bincode } (bystander {}) := .recode _ .json
  have hstored : Step (bystander {}) noted := .storePayload accepted_note rfl
  have hrun : Relation.ReflTransGen Step { bystander {} with codec := .bincode }
      { noted with codec := .bincode } :=
    ((Relation.ReflTransGen.single hrecoded).tail hstored).tail (.recode noted .bincode)
  refine ⟨?_, intact_of_run rfl rfl hrun⟩
  rw [noted, bystander, SortedMap.get?_insert, if_pos rfl]
  rfl

end Vault

end SealedExchange
