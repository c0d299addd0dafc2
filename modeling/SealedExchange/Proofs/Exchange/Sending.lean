import SealedExchange.Proofs.Enclave.Sealed
import SealedExchange.Proofs.Exchange.Integrity

/-! # What a request to send leads to

A message may be sent at once, or stored first and sent later. Both ways lead to the payload of the
message for the resolved recipients, which is kept and handed on to those of them that are not
managed here.
-/

namespace SealedExchange

/-- The mandatory recipients of a message are among its recipients, and only one mode has them. -/
structure Metadata.Suits (m : Metadata) (recipients : List PublicKey) : Prop where
  listed : m.mode = .mandatoryRecipients → ∀ key ∈ m.mandatory, key ∈ recipients
  unmarked : m.mode ≠ .mandatoryRecipients → ∀ key, key ∉ m.mandatory

theorem Privacy.suits_of_checkMandatory {m : Metadata} {recipients : List PublicKey}
    (hcheck : checkMandatory m.mode recipients m.mandatory = .ok ()) : m.Suits recipients := by
  rw [checkMandatory] at hcheck
  by_cases hmode : m.mode = .mandatoryRecipients
  · rw [if_pos hmode] at hcheck
    have hlisted : ∀ key ∈ m.mandatory, key ∈ recipients := by
      by_contra hmissing
      have hall : ¬m.mandatory.elems.all (· ∈ recipients) = true := by
        simpa [SortedSet.mem_def] using hmissing
      rw [if_neg hall] at hcheck
      split at hcheck <;> cases hcheck
    exact ⟨fun _ => hlisted, fun hne => absurd hmode hne⟩
  · rw [if_neg hmode] at hcheck
    split at hcheck
    next hempty => exact ⟨fun heq => absurd heq hmode, fun _ => SortedSet.isEmpty_iff.mp hempty⟩
    next => cases hcheck

namespace Vault

variable {v v' : Vault} {sender : PublicKey} {recipients : List PublicKey}
  {options : PrivacyOptions} {message : Bytes} {p : Payload} {sent : Sent}
  {entropy entropy' : Entropy}

/-! ## Preparing -/

theorem mem_resolveRecipients {e : Enclave} {mode : PrivacyMode} {key : PublicKey} :
    key ∈ resolveRecipients e sender recipients mode ↔
      key ∈ recipients ∨ key = sender ∨ mode = .standardPrivate ∧ key ∈ e.forwarding := by
  rw [resolveRecipients, Sorted.mem_appendNew, List.mem_append, List.mem_cons]
  split
  next hmode => simp [hmode, SortedSet.mem_def]
  next hmode => simp [hmode]

/-- The metadata of a message that affects others. -/
def metadataFor (options : PrivacyOptions) (affected : List AffectedTransaction)
    (recipients : List PublicKey) : Metadata where
  mode := options.mode
  affected := Privacy.securityHashes affected recipients
  execHash := options.execHash
  mandatory := options.mandatory
  groupId := options.groupId

theorem prepare_eq_ok {prepared : Prepared}
    (hprepare : v.prepare sender recipients options = .ok prepared) :
    prepared.recipients = resolveRecipients v.enclave sender recipients options.mode ∧
      ∃ affected, Privacy.findAffected v.messages options.affected = .ok affected ∧
        Privacy.checkSend options.mode prepared.recipients options.mandatory affected = .ok () ∧
        prepared.metadata = metadataFor options affected prepared.recipients := by
  obtain ⟨affected, haffected, hprepare⟩ := bind_eq_ok_iff.mp hprepare
  obtain ⟨⟨⟩, hcheck, hprepare⟩ := bind_eq_ok_iff.mp hprepare
  obtain ⟨metadata, hmetadata, hprepare⟩ := bind_eq_ok_iff.mp hprepare
  cases hprepare
  rw [mapError_eq_ok_iff, Metadata.checked] at hmetadata
  split at hmetadata
  next => cases hmetadata
  next =>
    cases hmetadata
    exact ⟨rfl, affected, haffected, hcheck, rfl⟩

/-- What a request to send is allowed with suits its recipients. -/
theorem suits_of_prepare {prepared : Prepared}
    (hprepare : v.prepare sender recipients options = .ok prepared) :
    prepared.metadata.Suits prepared.recipients := by
  obtain ⟨-, affected, -, hcheck, hmetadata⟩ := prepare_eq_ok hprepare
  obtain ⟨⟨⟩, hmandatory, -⟩ := bind_eq_ok_iff.mp hcheck
  rw [hmetadata]
  exact Privacy.suits_of_checkMandatory hmandatory

/-! ## Keeping -/

theorem persist_eq_ok (hpersist : v.persist p recipients = .ok sent) :
    ∃ record, EncryptedTransaction.ofPayload p v.codec = .ok record ∧ v.messages.fault = none ∧
      sent =
        { response :=
            { hash := p.hash
              sender := p.sender
              managedParties := .ofList (recipients.filter v.enclave.manages) }
          vault :=
            { v with
              messages :=
                { v.messages with records := v.messages.records.insert p.hash record } }
          publication :=
            { payload := p
              recipients := recipients.filter fun key => !v.enclave.manages key } } := by
  obtain ⟨record, hrecord, hpersist⟩ := bind_eq_ok_iff.mp hpersist
  obtain ⟨messages, hmessages, hpersist⟩ := bind_eq_ok_iff.mp hpersist
  have hrecord := mapError_eq_ok_iff.mp hrecord
  obtain ⟨hfault, -, rfl⟩ := Store.save_eq_ok_iff.mp (mapError_eq_ok_iff.mp hmessages)
  have hhash : record.hash = p.hash := by
    obtain ⟨bytes, -, rfl⟩ := EncryptedTransaction.ofPayload_eq_ok_iff.mp hrecord
    rfl
  cases hpersist
  exact ⟨record, hrecord, hfault, by rw [← hhash]; rfl⟩

/-- A payload is kept only under a hash that is free. -/
theorem free_of_persist (hpersist : v.persist p recipients = .ok sent) :
    v.messages.records.get? p.hash = none := by
  obtain ⟨record, hrecord, hpersist⟩ := bind_eq_ok_iff.mp hpersist
  obtain ⟨messages, hmessages, _⟩ := bind_eq_ok_iff.mp hpersist
  have hrecord := mapError_eq_ok_iff.mp hrecord
  obtain ⟨bytes, -, rfl⟩ := EncryptedTransaction.ofPayload_eq_ok_iff.mp hrecord
  exact (Store.save_eq_ok_iff.mp (mapError_eq_ok_iff.mp hmessages)).2.1

/-! ## Both ways to send -/

/-- A message is sent at once, or sent after it was stored and whatever has happened in between. -/
inductive Sends : Vault → Bytes → PublicKey → List PublicKey → PrivacyOptions → Sent → Prop
  | direct {v : Vault} {request : SendRequest} {sent : Sent} {entropy entropy' : Entropy}
      (hsend : v.send request entropy = (.ok sent, entropy')) :
      Sends v request.message request.sender request.recipients request.privacy sent
  | stored {v₀ v₁ v : Vault} {message : Bytes} {sender : Option PublicKey}
      {request : SendSignedRequest} {sent : Sent} {entropy₀ entropy₁ entropy entropy' : Entropy}
      (hstore : v₀.storeRaw message sender entropy₀ = (.ok (request.hash, v₁), entropy₁))
      (hbetween : Relation.ReflTransGen Step v₁ v)
      (hsend : v.sendSigned request entropy = (.ok sent, entropy')) :
      Sends v message (sender.getD v₀.enclave.defaultKey) request.recipients request.privacy sent

/-- A request to send prepares a payload of the message, which is then kept. -/
theorem send_eq_ok {request : SendRequest} (hsend : v.send request entropy = (.ok sent, entropy')) :
    ∃ prepared p rest, v.prepare request.sender request.recipients request.privacy = .ok prepared ∧
      v.enclave.encryptPayload request.message request.sender prepared.recipients prepared.metadata
        entropy = (.ok p, rest) ∧ v.persist p prepared.recipients = .ok sent := by
  obtain ⟨prepared, _, hprepared, hsend⟩ := Drawing.bind_eq_ok_iff.mp hsend
  obtain ⟨hprepare, rfl⟩ := Drawing.ofExcept_eq_ok_iff.mp hprepared
  obtain ⟨p, rest, hencrypt, hsend⟩ := Drawing.bind_eq_ok_iff.mp hsend
  exact ⟨prepared, p, rest, hprepare, Drawing.mapError_eq_ok_iff.mp hencrypt,
    (Drawing.ofExcept_eq_ok_iff.mp hsend).1⟩

theorem sendSigned_eq_ok {request : SendSignedRequest}
    (hsend : v.sendSigned request entropy = (.ok sent, entropy')) :
    ∃ record prepared p rest, v.raws.records.get? request.hash = some record ∧
      v.prepare record.sender request.recipients request.privacy = .ok prepared ∧
      v.enclave.encryptRawPayload record.toRaw prepared.recipients prepared.metadata entropy =
        (.ok p, rest) ∧ v.persist p prepared.recipients = .ok sent := by
  obtain ⟨found, _, hfound, hsend⟩ := Drawing.bind_eq_ok_iff.mp hsend
  obtain ⟨hretrieve, rfl⟩ := Drawing.ofExcept_eq_ok_iff.mp hfound
  obtain ⟨-, hget⟩ := Store.retrieve_eq_ok_iff.mp (mapError_eq_ok_iff.mp hretrieve)
  cases found with
  | none => cases (Drawing.ofExcept_eq_ok_iff.mp hsend).1
  | some record =>
    obtain ⟨prepared, _, hprepared, hsend⟩ := Drawing.bind_eq_ok_iff.mp hsend
    obtain ⟨hprepare, rfl⟩ := Drawing.ofExcept_eq_ok_iff.mp hprepared
    obtain ⟨p, rest, hencrypt, hsend⟩ := Drawing.bind_eq_ok_iff.mp hsend
    exact ⟨record, prepared, p, rest, hget, hprepare, Drawing.mapError_eq_ok_iff.mp hencrypt,
      (Drawing.ofExcept_eq_ok_iff.mp hsend).1⟩

/-- Where preparing and sealing succeed, keeping the payload decides about the request. -/
theorem send_eq_persist {request : SendRequest} {prepared : Prepared} {rest : Entropy}
    (hprepare : v.prepare request.sender request.recipients request.privacy = .ok prepared)
    (hencrypt : v.enclave.encryptPayload request.message request.sender prepared.recipients
      prepared.metadata entropy = (.ok p, rest)) :
    v.send request entropy = (v.persist p prepared.recipients, rest) := by
  rw [send, hprepare]
  exact bind_of_ok (Drawing.mapError_eq_ok_iff.mpr hencrypt)

/-- Where preparing succeeds, sealing and keeping the payload are left. -/
theorem sendSigned_eq_bind {request : SendSignedRequest} {record : EncryptedRawTransaction}
    {prepared : Prepared} (hretrieve : v.raws.retrieve request.hash = .ok (some record))
    (hprepare : v.prepare record.sender request.recipients request.privacy = .ok prepared) :
    v.sendSigned request entropy =
      (Drawing.mapError TransactionError.enclave (v.enclave.encryptRawPayload record.toRaw
        prepared.recipients prepared.metadata) >>= fun p =>
          Drawing.ofExcept (v.persist p prepared.recipients)) entropy := by
  rw [sendSigned, hretrieve]
  change (Drawing.ofExcept (v.prepare record.sender request.recipients request.privacy) >>= _ :
    Drawing TransactionError Sent) entropy = _
  rw [hprepare]
  rfl

theorem sendSigned_eq_persist {request : SendSignedRequest} {record : EncryptedRawTransaction}
    {prepared : Prepared} {rest : Entropy}
    (hretrieve : v.raws.retrieve request.hash = .ok (some record))
    (hprepare : v.prepare record.sender request.recipients request.privacy = .ok prepared)
    (hencrypt : v.enclave.encryptRawPayload record.toRaw prepared.recipients prepared.metadata
      entropy = (.ok p, rest)) :
    v.sendSigned request entropy = (v.persist p prepared.recipients, rest) := by
  rw [sendSigned_eq_bind hretrieve hprepare]
  exact bind_of_ok (Drawing.mapError_eq_ok_iff.mpr hencrypt)

theorem storeRaw_eq_ok {sender : Option PublicKey} {hash : MessageHash}
    (hstore : v.storeRaw message sender entropy = (.ok (hash, v'), entropy')) :
    ∃ raw rest, v.enclave.encryptRaw message (sender.getD v.enclave.defaultKey) entropy =
        (.ok raw, rest) ∧ v.raws.records.get? hash = none ∧
      v' = { v with
        raws := { v.raws with records := v.raws.records.insert hash (.ofRaw raw) } } := by
  obtain ⟨raw, rest, hraw, hstore⟩ := Drawing.bind_eq_ok_iff.mp hstore
  obtain ⟨raws, _, hraws, hstore⟩ := Drawing.bind_eq_ok_iff.mp hstore
  have hraws := mapError_eq_ok_iff.mp (Drawing.ofExcept_eq_ok_iff.mp hraws).1
  obtain ⟨-, hfree, rfl⟩ := Store.save_eq_ok_iff.mp hraws
  cases hstore
  exact ⟨raw, rest, Drawing.mapError_eq_ok_iff.mp hraw, hfree, rfl⟩

/-- No request changes the enclave or what is stored to be sent later. -/
theorem Step.keeps (hstep : Step v v') : v'.enclave = v.enclave ∧ ∀ hash record,
    v.raws.records.get? hash = some record → v'.raws.records.get? hash = some record := by
  cases hstep with
  | send hsend =>
    obtain ⟨_, _, _, -, -, hpersist⟩ := send_eq_ok hsend
    obtain ⟨_, -, -, rfl⟩ := persist_eq_ok hpersist
    exact ⟨rfl, fun _ _ hget => hget⟩
  | sendSigned hsend =>
    obtain ⟨_, _, _, _, -, -, -, hpersist⟩ := sendSigned_eq_ok hsend
    obtain ⟨_, -, -, rfl⟩ := persist_eq_ok hpersist
    exact ⟨rfl, fun _ _ hget => hget⟩
  | storeRaw hstore =>
    obtain ⟨raw, _, -, hfree, rfl⟩ := storeRaw_eq_ok hstore
    refine ⟨rfl, fun hash record hget => ?_⟩
    rw [SortedMap.get?_insert]
    split
    next heq =>
      subst heq
      cases hfree.symm.trans hget
    next => exact hget
  | storePayload _ hstore =>
    obtain ⟨-, ⟨-, rfl⟩ | ⟨_, _, _, -, -, -, -, rfl⟩⟩ := storePayload_eq_ok_iff.mp hstore
    · exact ⟨rfl, fun _ _ hget => hget⟩
    · exact ⟨rfl, fun _ _ hget => hget⟩
  | delete hdelete =>
    obtain ⟨_, -, hdelete⟩ := bind_eq_ok_iff.mp hdelete
    cases hdelete
    exact ⟨rfl, fun _ _ hget => hget⟩
  | recode => exact ⟨rfl, fun _ _ hget => hget⟩

theorem keeps_of_run (hrun : Relation.ReflTransGen Step v v') :
    v'.enclave = v.enclave ∧ ∀ hash record,
      v.raws.records.get? hash = some record → v'.raws.records.get? hash = some record := by
  induction hrun with
  | refl => exact ⟨rfl, fun _ _ hget => hget⟩
  | tail _ hstep ih =>
    obtain ⟨henclave, hraws⟩ := hstep.keeps
    exact ⟨henclave.trans ih.1, fun hash record hget => hraws hash record (ih.2 hash record hget)⟩

/-- Either way, the payload of the message for the resolved recipients is kept and handed on. -/
theorem Sends.exists_payload {suite : CipherSuite} (hopens : suite.Opens)
    (hv : v.enclave.Keyed suite) (hsends : Sends v message sender recipients options sent) :
    ∃ prepared p, v.prepare sender recipients options = .ok prepared ∧
      p.SealedFor suite message sender prepared.recipients prepared.metadata ∧
      v.enclave.manages sender = true ∧ v.persist p prepared.recipients = .ok sent := by
  have hne : ∀ {sender recipients options prepared},
      v.prepare sender recipients options = .ok prepared → prepared.recipients ≠ [] := by
    intro sender recipients options prepared hprepare
    rw [(prepare_eq_ok hprepare).1]
    exact List.ne_nil_of_mem (mem_resolveRecipients.mpr (.inr (.inl rfl)))
  cases hsends with
  | direct hsend =>
    obtain ⟨prepared, p, _, hprepare, hencrypt, hpersist⟩ := send_eq_ok hsend
    obtain ⟨hp, hmanages⟩ := Enclave.sealedFor_of_encryptPayload hv (hne hprepare) hencrypt
    exact ⟨prepared, p, hprepare, hp, hmanages, hpersist⟩
  | @stored v₀ v₁ _ _ sender request _ _ _ _ _ hstore hbetween hsend =>
    obtain ⟨raw, _, hraw, -, rfl⟩ := storeRaw_eq_ok hstore
    obtain ⟨henclave, hkept⟩ := keeps_of_run hbetween
    obtain ⟨record, prepared, p, _, hget, hprepare, hencrypt, hpersist⟩ := sendSigned_eq_ok hsend
    have hrecord := hkept request.hash (.ofRaw raw)
      ((SortedMap.get?_insert _ _ _ _).trans (if_pos rfl))
    cases hget.symm.trans hrecord
    have henclave : v.enclave = v₀.enclave := henclave
    rw [henclave] at hv hencrypt ⊢
    obtain ⟨_, -, -, hsender, -⟩ := Enclave.rawMasterKey_of_encryptRaw (hv.opens hopens) hraw
    obtain ⟨hp, hmanages⟩ :=
      Enclave.sealedFor_of_encryptRawPayload hopens hv (hne hprepare) hraw hencrypt
    rw [← hsender] at hp hmanages ⊢
    exact ⟨prepared, p, hprepare, hp, hmanages, hpersist⟩

end Vault

end SealedExchange
