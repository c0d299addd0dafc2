import SealedExchange.Proofs.Exchange.Dispatch
import SealedExchange.Proofs.Exchange.EndToEnd
import SealedExchange.Proofs.Node.Encodable

/-! # What a push tells its recipient

The copy that is pushed to a recipient holds the recipient's box and nobody else's. In standard mode
it holds nothing at all that the other recipients have a part in: two requests that differ in them
alone, drawing the same random bytes, push the same bytes to a recipient that they share.
-/

namespace SealedExchange

/-! ## Copies -/

namespace Payload

/-- A copy of a payload has the box of one key, and no other key has a box in it. -/
structure BoxedFor (copy p : Payload) (recipient : PublicKey) : Prop where
  boxes : ∃ box, p.boxFor? recipient = some box ∧ copy.boxes = [box]
  own : copy.boxFor? recipient = p.boxFor? recipient
  others : ∀ key, key ≠ recipient → copy.boxFor? key = none

theorem boxedFor_of_forRecipient {p copy : Payload} {recipient : PublicKey}
    (hcopy : p.forRecipient recipient = some copy) : copy.BoxedFor p recipient := by
  obtain ⟨box, hbox, hboxed⟩ := boxed_of_forRecipient hcopy
  refine ⟨⟨box, hbox, ?_⟩, ?_, fun key hne => ?_⟩
  · obtain ⟨box', hbox', rfl⟩ := forRecipient_eq_some_iff.mp hcopy
    cases hbox.symm.trans hbox'
    rfl
  · rw [boxFor?, hboxed, List.lookup_cons_self, hbox]
  · rw [boxFor?, hboxed, List.lookup_cons, beq_eq_false_iff_ne.mpr hne, List.lookup_nil]

end Payload

namespace Enclave

variable {e : Enclave} {p : Payload} {sender recipient : PublicKey} {recipients : List PublicKey}
  {metadata : Metadata} {masterKey cipherText nonce recipientNonce : Bytes} {boxes : List Bytes}

/-- A payload for one recipient, made without any other. -/
def soleCopy (e : Enclave) (secret : SecretKey) (masterKey cipherText nonce recipientNonce : Bytes)
    (sender recipient : PublicKey) (metadata : Metadata) : Payload :=
  { metadata with
    sender, cipherText, nonce, recipientNonce
    boxes := [e.suite.encrypt (e.suite.boxKey secret recipient) recipientNonce masterKey]
    keys := [recipient] }

theorem exists_forRecipient_of_assemble
    (hboxes : e.sealBoxes sender masterKey recipientNonce recipients = .ok boxes)
    (hassemble : assemble sender cipherText nonce boxes recipientNonce recipients metadata = .ok p)
    (hlisted : recipient ∈ recipients) :
    ∃ secret, e.keys.get? sender = some secret ∧ ∃ copy, p.forRecipient recipient = some copy ∧
      (metadata.mode = .standardPrivate → copy = e.soleCopy secret masterKey cipherText nonce
        recipientNonce sender recipient metadata) := by
  obtain ⟨hof, hexists⟩ := lookup_zip (sealBoxes_eq_ok hboxes) recipient
  obtain ⟨box, hbox⟩ := hexists hlisted
  obtain ⟨secret, hsecret, rfl⟩ := hof box hbox
  obtain ⟨-, rfl⟩ := assemble_eq_ok_iff.mp hassemble
  refine ⟨secret, hsecret, _, Payload.forRecipient_eq_some_iff.mpr ⟨_, hbox, rfl⟩, fun hmode => ?_⟩
  dsimp only
  rw [if_pos hmode]
  rfl

theorem rawMasterKey_congr {e' : Enclave} (hsuite : e'.suite = e.suite) (hkeys : e'.keys = e.keys)
    (raw : RawTransaction) : e'.rawMasterKey raw = e.rawMasterKey raw := by
  simp only [rawMasterKey, boxKey, secretOf, unsealedMasterKey, unsealed, hsuite, hkeys]

end Enclave

/-! ## Pushes -/

theorem Node.pushTo_of_encode {n : Node} {p copy : Payload} {recipient : PublicKey} {body : Bytes}
    (hcopy : p.forRecipient recipient = some copy) (hbody : n.vault.codec.encode copy = .ok body) :
    n.pushTo p recipient = (n.registry.directory.urlOf? recipient).map (·, body) := by
  rw [pushTo, hcopy]
  simp only [Option.bind_eq_bind, Option.bind_some, hbody, Except.toOption]
  cases n.registry.directory.urlOf? recipient with
  | none => rfl
  | some url => rfl

/-- What is pushed to a recipient, wherever the recipient is found. -/
def Sent.Pushes (sent : Sent) (recipient : PublicKey) (body : Bytes) : Prop :=
  ∀ registry : Registry,
    ({ vault := sent.vault, registry } : Node).pushTo sent.publication.payload recipient =
      (registry.directory.urlOf? recipient).map (·, body)

/-- What is pushed to a recipient is a copy with the recipient's box and no other key's. -/
def Sent.Discreet (sent : Sent) (recipient : PublicKey) : Prop :=
  ∃ body copy, sent.Pushes recipient body ∧ sent.vault.codec.decode body = .ok copy ∧
    copy.BoxedFor sent.publication.payload recipient

/-- Two requests in standard mode that make no claims and say the same about their message. -/
structure PrivacyOptions.Alike (options options' : PrivacyOptions) : Prop where
  mode : options.mode = .standardPrivate ∧ options'.mode = .standardPrivate
  affected : options.affected = [] ∧ options'.affected = []
  execHash : options'.execHash = options.execHash
  groupId : options'.groupId = options.groupId

namespace Vault

/-- Two vaults have the same keys and write payloads in the same way. -/
structure SharesKeys (v v' : Vault) : Prop where
  suite : v'.enclave.suite = v.enclave.suite
  keys : v'.enclave.keys = v.enclave.keys
  codec : v'.codec = v.codec

variable {v v' : Vault} {p p' copy : Payload} {sent sent' : Sent} {sender recipient : PublicKey}
  {recipients recipients' : List PublicKey} {options : PrivacyOptions} {prepared : Prepared}
  {entropy rest rest' : Entropy}

/-- A payload that was kept has an encoding, and so do its copies. -/
theorem exists_pushes_of_persist (hpersist : v.persist p recipients = .ok sent)
    (hcopy : p.forRecipient recipient = some copy) :
    ∃ body, v.codec.encode copy = .ok body ∧ sent.Pushes recipient body := by
  obtain ⟨record, hrecord, -, rfl⟩ := persist_eq_ok hpersist
  obtain ⟨bytes, hencode, -⟩ := EncryptedTransaction.ofPayload_eq_ok_iff.mp hrecord
  have hrepresents := Codec.exists_encode_iff.mp ⟨bytes, hencode⟩
  obtain ⟨body, hbody⟩ := Codec.exists_encode_iff.mpr (hrepresents.forRecipient hcopy)
  exact ⟨body, hbody, fun registry => Node.pushTo_of_encode hcopy hbody⟩

theorem discreet_of_persist (hwell : p.WellFormed) (hpersist : v.persist p recipients = .ok sent)
    (hcopy : p.forRecipient recipient = some copy) : sent.Discreet recipient := by
  obtain ⟨body, hbody, hpushes⟩ := exists_pushes_of_persist hpersist hcopy
  obtain ⟨_, -, -, rfl⟩ := persist_eq_ok hpersist
  exact ⟨body, copy, hpushes,
    Codec.decode_of_encode (Payload.check_eq_ok_iff.mpr (hwell.forRecipient hcopy)) hbody,
    Payload.boxedFor_of_forRecipient hcopy⟩

/-- Equal copies are pushed as the same bytes. -/
theorem exists_pushes_of_copy (hcodec : v'.codec = v.codec)
    (hpersist : v.persist p recipients = .ok sent)
    (hpersist' : v'.persist p' recipients' = .ok sent')
    (hcopy : p.forRecipient recipient = some copy)
    (hcopy' : p'.forRecipient recipient = some copy) :
    ∃ body, sent.Pushes recipient body ∧ sent'.Pushes recipient body := by
  obtain ⟨body, hbody, hpushes⟩ := exists_pushes_of_persist hpersist hcopy
  obtain ⟨body', hbody', hpushes'⟩ := exists_pushes_of_persist hpersist' hcopy'
  rw [hcodec] at hbody'
  cases hbody.symm.trans hbody'
  exact ⟨body, hpushes, hpushes'⟩

/-! ## What a copy is made from -/

theorem mem_recipients_of_persist (hpersist : v.persist p recipients = .ok sent)
    (hrecipient : recipient ∈ sent.publication.recipients) : recipient ∈ recipients := by
  obtain ⟨_, -, -, rfl⟩ := persist_eq_ok hpersist
  exact (List.mem_filter.mp hrecipient).1

/-- In standard mode the metadata of a message that affects no other one does not depend on its
recipients. -/
theorem metadata_of_prepare (hmode : options.mode = .standardPrivate)
    (haffected : options.affected = [])
    (hprepare : v.prepare sender recipients options = .ok prepared) :
    prepared.metadata = { execHash := options.execHash, groupId := options.groupId } := by
  obtain ⟨-, affected, hfind, -, hmetadata⟩ := prepare_eq_ok hprepare
  have hnone : affected = [] := List.eq_nil_iff_forall_not_mem.mpr fun tx htx => by
    have href := Privacy.mem_refs_of_findAffected hfind tx htx
    rw [haffected] at href
    cases href
  have hmandatory : options.mandatory = .empty := by
    have hsuits := suits_of_prepare hprepare
    rw [hmetadata] at hsuits
    have hne : options.mode ≠ .mandatoryRecipients := by
      rw [hmode]
      exact PrivacyMode.noConfusion
    have hnot := hsuits.unmarked hne
    exact SortedSet.ext_mem fun key => iff_of_false (hnot key) (SortedSet.notMem_empty key)
  rw [hmetadata, hnone, metadataFor, hmode, hmandatory]
  rfl

/-- The copies that a request to send makes are made from what was drawn for it. -/
theorem exists_copy_of_send {request : SendRequest}
    (hsend : v.send request entropy = (.ok sent, rest))
    (hrecipient : recipient ∈ sent.publication.recipients) :
    ∃ prepared p draws left secret copy,
      v.prepare request.sender request.recipients request.privacy = .ok prepared ∧
      v.persist p prepared.recipients = .ok sent ∧ p.WellFormed ∧
      (Enclave.PayloadDraws.draw : Drawing EnclaveError _) entropy = (.ok draws, left) ∧
      v.enclave.keys.get? request.sender = some secret ∧
      p.forRecipient recipient = some copy ∧
      (prepared.metadata.mode = .standardPrivate → copy = v.enclave.soleCopy secret draws.masterKey
        (v.enclave.suite.encrypt draws.masterKey draws.nonce request.message) draws.nonce
        draws.recipientNonce request.sender recipient prepared.metadata) := by
  obtain ⟨prepared, p, _, hprepare, hencrypt, hpersist⟩ := send_eq_ok hsend
  obtain ⟨draws, left, hdraws, hseal⟩ := Enclave.encryptPayload_eq_ok hencrypt
  obtain ⟨boxes, hboxes, hassemble⟩ := bind_eq_ok_iff.mp hseal
  obtain ⟨secret, hsecret, copy, hcopy, hsole⟩ := Enclave.exists_forRecipient_of_assemble hboxes
    hassemble (mem_recipients_of_persist hpersist hrecipient)
  exact ⟨prepared, p, draws, left, secret, copy, hprepare, hpersist,
    Enclave.wellFormed_of_sealWith hseal, hdraws, hsecret, hcopy, hsole⟩

theorem exists_copy_of_sendSigned {request : SendSignedRequest}
    (hsend : v.sendSigned request entropy = (.ok sent, rest))
    (hrecipient : recipient ∈ sent.publication.recipients) :
    ∃ record prepared p masterKey secret copy, v.raws.records.get? request.hash = some record ∧
      v.prepare record.sender request.recipients request.privacy = .ok prepared ∧
      v.persist p prepared.recipients = .ok sent ∧ p.WellFormed ∧
      v.enclave.rawMasterKey record.toRaw = .ok masterKey ∧
      v.enclave.keys.get? record.sender = some secret ∧
      p.forRecipient recipient = some copy ∧
      (prepared.metadata.mode = .standardPrivate → copy = v.enclave.soleCopy secret masterKey
        record.encryptedPayload record.nonce (entropy.peek CipherSuite.nonceLength) record.sender
        recipient prepared.metadata) := by
  obtain ⟨record, prepared, p, _, hrecord, hprepare, hencrypt, hpersist⟩ := sendSigned_eq_ok hsend
  obtain ⟨masterKey, hmaster, haddress⟩ := Enclave.encryptRawPayload_eq_ok hencrypt
  obtain ⟨boxes, hboxes, hassemble⟩ := bind_eq_ok_iff.mp haddress
  obtain ⟨secret, hsecret, copy, hcopy, hsole⟩ := Enclave.exists_forRecipient_of_assemble hboxes
    hassemble (mem_recipients_of_persist hpersist hrecipient)
  exact ⟨record, prepared, p, masterKey, secret, copy, hrecord, hprepare, hpersist,
    Enclave.wellFormed_of_addressWith haddress, hmaster, hsecret, hcopy, hsole⟩

/-! ## Two requests -/

theorem exists_common_push_of_send {request request' : SendRequest} (hshares : v.SharesKeys v')
    (hmessage : request'.message = request.message) (hsender : request'.sender = request.sender)
    (halike : request.privacy.Alike request'.privacy)
    (hsend : v.send request entropy = (.ok sent, rest))
    (hsend' : v'.send request' entropy = (.ok sent', rest'))
    (hrecipient : recipient ∈ sent.publication.recipients)
    (hrecipient' : recipient ∈ sent'.publication.recipients) :
    ∃ body, sent.Pushes recipient body ∧ sent'.Pushes recipient body := by
  obtain ⟨prepared, p, draws, left, secret, copy, hprepare, hpersist, -, hdraws, hsecret, hcopy,
    hsole⟩ := exists_copy_of_send hsend hrecipient
  obtain ⟨prepared', p', draws', left', secret', copy', hprepare', hpersist', -, hdraws', hsecret',
    hcopy', hsole'⟩ := exists_copy_of_send hsend' hrecipient'
  have hmetadata := metadata_of_prepare halike.mode.1 halike.affected.1 hprepare
  have hmetadata' := metadata_of_prepare halike.mode.2 halike.affected.2 hprepare'
  rw [halike.execHash, halike.groupId, ← hmetadata] at hmetadata'
  cases hdraws.symm.trans hdraws'
  rw [hshares.keys, hsender] at hsecret'
  cases hsecret.symm.trans hsecret'
  have hmode : prepared.metadata.mode = .standardPrivate := by rw [hmetadata]
  have hsame : copy' = copy := by
    rw [hsole hmode, hsole' (hmetadata' ▸ hmode), hmetadata', hsender, hmessage, Enclave.soleCopy,
      Enclave.soleCopy, hshares.suite]
  exact exists_pushes_of_copy hshares.codec hpersist hpersist' hcopy (hsame ▸ hcopy')

theorem exists_common_push_of_sendSigned {request request' : SendSignedRequest}
    (hshares : v.SharesKeys v')
    (hraw : v'.raws.records.get? request'.hash = v.raws.records.get? request.hash)
    (halike : request.privacy.Alike request'.privacy)
    (hsend : v.sendSigned request entropy = (.ok sent, rest))
    (hsend' : v'.sendSigned request' entropy = (.ok sent', rest'))
    (hrecipient : recipient ∈ sent.publication.recipients)
    (hrecipient' : recipient ∈ sent'.publication.recipients) :
    ∃ body, sent.Pushes recipient body ∧ sent'.Pushes recipient body := by
  obtain ⟨record, prepared, p, masterKey, secret, copy, hrecord, hprepare, hpersist, -, hmaster,
    hsecret, hcopy, hsole⟩ := exists_copy_of_sendSigned hsend hrecipient
  obtain ⟨record', prepared', p', masterKey', secret', copy', hrecord', hprepare', hpersist', -,
    hmaster', hsecret', hcopy', hsole'⟩ := exists_copy_of_sendSigned hsend' hrecipient'
  have hmetadata := metadata_of_prepare halike.mode.1 halike.affected.1 hprepare
  have hmetadata' := metadata_of_prepare halike.mode.2 halike.affected.2 hprepare'
  rw [halike.execHash, halike.groupId, ← hmetadata] at hmetadata'
  rw [hraw, hrecord] at hrecord'
  cases hrecord'
  rw [Enclave.rawMasterKey_congr hshares.suite hshares.keys] at hmaster'
  cases hmaster.symm.trans hmaster'
  rw [hshares.keys] at hsecret'
  cases hsecret.symm.trans hsecret'
  have hmode : prepared.metadata.mode = .standardPrivate := by rw [hmetadata]
  have hsame : copy' = copy := by
    rw [hsole hmode, hsole' (hmetadata' ▸ hmode), hmetadata', Enclave.soleCopy, Enclave.soleCopy,
      hshares.suite]
  exact exists_pushes_of_copy hshares.codec hpersist hpersist' hcopy (hsame ▸ hcopy')

/-- Two requests for one message in standard mode, which draw the same random bytes and go to any
recipients, push the same bytes to a recipient of both, and so do two requests to send one stored
message. In every mode what is pushed to a recipient has that recipient's box and no other. -/
theorem discretion_of_sends :
    (∀ {v v' : Vault} {request request' : SendRequest} {entropy rest rest' : Entropy}
        {sent sent' : Sent}, v.SharesKeys v' → request'.message = request.message →
      request'.sender = request.sender → request.privacy.Alike request'.privacy →
      v.send request entropy = (.ok sent, rest) → v'.send request' entropy = (.ok sent', rest') →
      ∀ recipient ∈ sent.publication.recipients, recipient ∈ sent'.publication.recipients →
        ∃ body, sent.Pushes recipient body ∧ sent'.Pushes recipient body) ∧
    (∀ {v v' : Vault} {request request' : SendSignedRequest} {entropy rest rest' : Entropy}
        {sent sent' : Sent}, v.SharesKeys v' →
      v'.raws.records.get? request'.hash = v.raws.records.get? request.hash →
      request.privacy.Alike request'.privacy →
      v.sendSigned request entropy = (.ok sent, rest) →
      v'.sendSigned request' entropy = (.ok sent', rest') →
      ∀ recipient ∈ sent.publication.recipients, recipient ∈ sent'.publication.recipients →
        ∃ body, sent.Pushes recipient body ∧ sent'.Pushes recipient body) ∧
    (∀ {v : Vault} {request : SendRequest} {entropy rest : Entropy} {sent : Sent},
      v.send request entropy = (.ok sent, rest) →
      ∀ recipient ∈ sent.publication.recipients, sent.Discreet recipient) ∧
    ∀ {v : Vault} {request : SendSignedRequest} {entropy rest : Entropy} {sent : Sent},
      v.sendSigned request entropy = (.ok sent, rest) →
      ∀ recipient ∈ sent.publication.recipients, sent.Discreet recipient := by
  refine ⟨?_, ?_, ?_, ?_⟩
  · intro v v' request request' entropy rest rest' sent sent' hshares hmessage hsender halike hsend
      hsend' recipient hrecipient hrecipient'
    exact exists_common_push_of_send hshares hmessage hsender halike hsend hsend' hrecipient
      hrecipient'
  · intro v v' request request' entropy rest rest' sent sent' hshares hraw halike hsend hsend'
      recipient hrecipient hrecipient'
    exact exists_common_push_of_sendSigned hshares hraw halike hsend hsend' hrecipient hrecipient'
  · intro v request entropy rest sent hsend recipient hrecipient
    obtain ⟨_, _, _, _, _, _, -, hpersist, hwell, -, -, hcopy, -⟩ :=
      exists_copy_of_send hsend hrecipient
    exact discreet_of_persist hwell hpersist hcopy
  · intro v request entropy rest sent hsend recipient hrecipient
    obtain ⟨_, _, _, _, _, _, -, -, hpersist, hwell, -, -, hcopy, -⟩ :=
      exists_copy_of_sendSigned hsend hrecipient
    exact discreet_of_persist hwell hpersist hcopy

/-! ## Two lists of recipients -/

/-- A request to send a message to two parties. -/
def pairRequest : SendRequest where
  message := [7]
  sender := .filled 1
  recipients := [.filled 2, .filled 3]
  privacy := { groupId := some [4] }

/-- A request to send the same message to one of them. -/
def loneRequest : SendRequest := { pairRequest with recipients := [.filled 3] }

/-- A request to send the draft to a party that is named. -/
def namedDraft : SendSignedRequest := { forwardDraft with recipients := [.filled 4] }

/-- A vault with one key and a draft, which forwards nothing. -/
def plainSender : Vault := { forwarder with enclave := holding 1 [] }

/-- A vault with the same key, which forwards to two other keys. -/
def forwardingSender : Vault :=
  { plainSender with enclave := { holding 1 [] with forwarding := .ofList [.filled 4, .filled 5] } }

/-- The second party gets the same bytes with the first party as without it, next to keys that
messages are forwarded to or not, and a stored message tells a party as little. -/
theorem discretion_of_sends_pair :
    (∃ sent sent' rest rest', plainSender.send pairRequest (repeating 9) = (.ok sent, rest) ∧
      forwardingSender.send loneRequest (repeating 9) = (.ok sent', rest') ∧
      sent.publication.recipients = [.filled 2, .filled 3] ∧
      sent'.publication.recipients = [.filled 3, .filled 4, .filled 5] ∧
      (∃ body, sent.Pushes (.filled 3) body ∧ sent'.Pushes (.filled 3) body) ∧
      sent.Discreet (.filled 2)) ∧
    ∃ sent sent' rest rest', plainSender.sendSigned namedDraft (repeating 9) = (.ok sent, rest) ∧
      forwardingSender.sendSigned forwardDraft (repeating 9) = (.ok sent', rest') ∧
      sent.publication.recipients = [.filled 4] ∧
      sent'.publication.recipients = [.filled 4, .filled 5] ∧
      (∃ body, sent.Pushes (.filled 4) body ∧ sent'.Pushes (.filled 4) body) ∧
      sent'.Discreet (.filled 5) := by
  obtain ⟨hsends, hsigned, hdiscreet, hdiscreet'⟩ := discretion_of_sends
  have hshares : plainSender.SharesKeys forwardingSender := ⟨rfl, rfl, rfl⟩
  constructor
  · have hsend : ∃ sent rest, plainSender.send pairRequest (repeating 9) = (.ok sent, rest) ∧
        sent.publication.recipients = [.filled 2, .filled 3] := ⟨_, _, rfl, rfl⟩
    have hsend' : ∃ sent rest, forwardingSender.send loneRequest (repeating 9) = (.ok sent, rest) ∧
        sent.publication.recipients = [.filled 3, .filled 4, .filled 5] := ⟨_, _, rfl, rfl⟩
    obtain ⟨sent, rest, hsend, hrecipients⟩ := hsend
    obtain ⟨sent', rest', hsend', hrecipients'⟩ := hsend'
    have hmessage : loneRequest.message = pairRequest.message := rfl
    have hsender : loneRequest.sender = pairRequest.sender := rfl
    have halike : pairRequest.privacy.Alike loneRequest.privacy :=
      ⟨⟨rfl, rfl⟩, ⟨rfl, rfl⟩, rfl, rfl⟩
    refine ⟨sent, sent', rest, rest', hsend, hsend', hrecipients, hrecipients', ?_, ?_⟩
    · apply hsends hshares hmessage hsender halike hsend hsend'
      · simp [hrecipients]
      · simp [hrecipients']
    · apply hdiscreet hsend
      simp [hrecipients]
  · have hsend : ∃ sent rest, plainSender.sendSigned namedDraft (repeating 9) = (.ok sent, rest) ∧
        sent.publication.recipients = [.filled 4] := ⟨_, _, rfl, rfl⟩
    have hsend' : ∃ sent rest, forwardingSender.sendSigned forwardDraft (repeating 9) =
        (.ok sent, rest) ∧ sent.publication.recipients = [.filled 4, .filled 5] := ⟨_, _, rfl, rfl⟩
    obtain ⟨sent, rest, hsend, hrecipients⟩ := hsend
    obtain ⟨sent', rest', hsend', hrecipients'⟩ := hsend'
    have hraw : forwardingSender.raws.records.get? forwardDraft.hash =
        plainSender.raws.records.get? namedDraft.hash := rfl
    have halike : namedDraft.privacy.Alike forwardDraft.privacy :=
      ⟨⟨rfl, rfl⟩, ⟨rfl, rfl⟩, rfl, rfl⟩
    refine ⟨sent, sent', rest, rest', hsend, hsend', hrecipients, hrecipients', ?_, ?_⟩
    · apply hsigned hshares hraw halike hsend hsend'
      · simp [hrecipients]
      · simp [hrecipients']
    · apply hdiscreet' hsend'
      simp [hrecipients']

end Vault

end SealedExchange
