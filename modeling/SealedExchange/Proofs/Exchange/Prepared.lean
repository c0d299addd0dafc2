import SealedExchange.Proofs.Exchange.EndToEnd

/-! # What was prepared can be sealed

A request to send is checked when it is prepared, and the payload that comes of it is checked once
more when it is put together. The first check leaves nothing to the second: it lets through only
mandatory recipients that are recipients, and none outside the mode that has them, and sealing makes
one box for each recipient. So sealing fails only for want of a secret or of a master key.
-/

namespace SealedExchange

namespace Enclave

variable {e : Enclave} {sender : PublicKey} {recipients : List PublicKey} {metadata : Metadata}
  {masterKey message : Bytes} {raw : RawTransaction}

/-! ## Sealing succeeds -/

theorem exists_sealBoxes (hmanages : e.manages sender = true) (masterKey nonce : Bytes)
    (recipients : List PublicKey) :
    ∃ boxes, e.sealBoxes sender masterKey nonce recipients = .ok boxes := by
  obtain ⟨secret, hsecret⟩ := manages_iff_exists_secret.mp hmanages
  induction recipients with
  | nil => exact ⟨[], rfl⟩
  | cons recipient rest ih =>
    obtain ⟨boxes, hboxes⟩ := ih
    have hshared : e.boxKey sender recipient = .ok (e.suite.boxKey secret recipient) :=
      boxKey_eq_ok_iff.mpr ⟨secret, hsecret, rfl⟩
    rw [sealBoxes, hshared, ok_bind, hboxes, ok_bind]
    exact ⟨_, rfl⟩

/-- With one box for each recipient, the payload passes its check. -/
theorem exists_assemble (hsuits : metadata.Suits recipients) (hmanages : e.manages sender = true)
    (cipherText nonce masterKey recipientNonce : Bytes) :
    ∃ boxes p, e.sealBoxes sender masterKey recipientNonce recipients = .ok boxes ∧
      assemble sender cipherText nonce boxes recipientNonce recipients metadata = .ok p := by
  obtain ⟨boxes, hboxes⟩ := exists_sealBoxes hmanages masterKey recipientNonce recipients
  have hlength : boxes.length = recipients.length := (sealBoxes_eq_ok hboxes).length_eq.symm
  exact ⟨boxes, _, hboxes,
    assemble_eq_ok_iff.mpr ⟨⟨fun _ => Nat.le_of_eq hlength, hsuits.listed, hsuits.unmarked⟩, rfl⟩⟩

theorem exists_encryptPayload (hsuits : metadata.Suits recipients)
    (hmanages : e.manages sender = true) (message : Bytes) (entropy : Entropy) :
    ∃ p rest, e.encryptPayload message sender recipients metadata entropy = (.ok p, rest) := by
  obtain ⟨draws, rest, hdraws, -⟩ := @exists_draw EnclaveError entropy
  obtain ⟨boxes, p, hboxes, hassemble⟩ := exists_assemble hsuits hmanages
    (e.suite.encrypt draws.masterKey draws.nonce message) draws.nonce draws.masterKey
    draws.recipientNonce
  have hseal : e.sealWith draws message sender recipients metadata = .ok p :=
    bind_eq_ok_iff.mpr ⟨boxes, hboxes, hassemble⟩
  exact ⟨p, rest, Drawing.bind_eq_ok_iff.mpr
    ⟨draws, rest, hdraws, Drawing.ofExcept_eq_ok_iff.mpr ⟨hseal, rfl⟩⟩⟩

/-- Whoever opens the master key of a raw transaction manages its sender. -/
theorem manages_of_rawMasterKey (hmaster : e.rawMasterKey raw = .ok masterKey) :
    e.manages raw.sender = true := by
  obtain ⟨shared, hshared, -⟩ := bind_eq_ok_iff.mp hmaster
  obtain ⟨secret, hsecret, -⟩ := boxKey_eq_ok_iff.mp hshared
  exact manages_iff_exists_secret.mpr ⟨secret, hsecret⟩

/-- Once its master key is open, a raw transaction can be sealed for recipients. -/
theorem exists_encryptRawPayload (hsuits : metadata.Suits recipients)
    (hmaster : e.rawMasterKey raw = .ok masterKey) (entropy : Entropy) :
    ∃ p rest, e.encryptRawPayload raw recipients metadata entropy = (.ok p, rest) := by
  obtain ⟨boxes, p, hboxes, hassemble⟩ := exists_assemble hsuits (manages_of_rawMasterKey hmaster)
    raw.encryptedPayload raw.nonce masterKey (entropy.peek CipherSuite.nonceLength)
  have haddress : e.addressWith masterKey (entropy.peek CipherSuite.nonceLength) raw recipients
      metadata = .ok p := bind_eq_ok_iff.mpr ⟨boxes, hboxes, hassemble⟩
  refine ⟨p, entropy.skip CipherSuite.nonceLength, ?_⟩
  rw [encryptRawPayload, hmaster]
  exact Prod.ext haddress rfl

/-! ## Why a master key stays closed -/

theorem boxKey_eq_error {key other : PublicKey} {reason : EnclaveError}
    (herror : e.boxKey key other = .error reason) : reason = .keyNotManaged key.toBase64 := by
  obtain hsecret | ⟨_, _, hshared⟩ := bind_eq_error_iff.mp herror
  · rw [secretOf] at hsecret
    split at hsecret
    next => cases hsecret
    next => exact (Except.error.inj hsecret).symm
  · cases hshared

theorem unsealedMasterKey_eq_error {key nonce box : Bytes} {reason : EnclaveError}
    (herror : e.unsealedMasterKey key nonce box = .error reason) : reason = .decryptionFailed := by
  obtain hunsealed | ⟨_, _, hlength⟩ := bind_eq_error_iff.mp herror
  · rw [unsealed] at hunsealed
    split at hunsealed
    next => cases hunsealed
    next => exact (Except.error.inj hunsealed).symm
  · split at hlength
    next => cases hlength
    next => exact (Except.error.inj hlength).symm

theorem rawMasterKey_eq_error {reason : EnclaveError}
    (herror : e.rawMasterKey raw = .error reason) :
    reason = .keyNotManaged raw.sender.toBase64 ∨ reason = .decryptionFailed := by
  obtain hshared | ⟨_, _, hmaster⟩ := bind_eq_error_iff.mp herror
  · exact .inl (boxKey_eq_error hshared)
  · exact .inr (unsealedMasterKey_eq_error hmaster)

end Enclave

/-! ## What a request fails with -/

/-- An error that the check of a payload has found. -/
inductive TransactionError.FromCheck : TransactionError → Prop
  | payload (reason : PayloadError) : FromCheck (.payload reason)
  | enclave (reason : PayloadError) : FromCheck (.enclave (.payload reason))
  | codec (reason : PayloadError) : FromCheck (.codec (.invalid reason))

theorem Codec.exists_of_encode_eq_error {codec : Codec} {p : Payload} {reason : CodecError}
    (herror : codec.encode p = .error reason) : ∃ text, reason = .encode text := by
  cases codec with
  | bincode =>
    obtain ⟨_, -, rfl⟩ := mapError_eq_error_iff.mp herror
    exact ⟨_, rfl⟩
  | json =>
    obtain ⟨_, -, rfl⟩ := mapError_eq_error_iff.mp herror
    exact ⟨_, rfl⟩

namespace Vault

variable {v : Vault} {sender : PublicKey} {recipients : List PublicKey} {options : PrivacyOptions}
  {prepared : Prepared} {p : Payload} {error : TransactionError}

/-- Keeping a payload may fail in the codec or in the store, neither of which checks it. -/
theorem not_fromCheck_of_persist (herror : v.persist p recipients = .error error) :
    ¬error.FromCheck := by
  intro hfrom
  obtain hrecord | ⟨_, _, hsave⟩ := bind_eq_error_iff.mp herror
  · obtain ⟨reason, hreason, rfl⟩ := mapError_eq_error_iff.mp hrecord
    obtain hencode | ⟨_, _, hmade⟩ := bind_eq_error_iff.mp hreason
    · obtain ⟨_, rfl⟩ := Codec.exists_of_encode_eq_error hencode
      cases hfrom
    · cases hmade
  · obtain hsave | ⟨_, _, hsent⟩ := bind_eq_error_iff.mp hsave
    · obtain ⟨_, -, rfl⟩ := mapError_eq_error_iff.mp hsave
      cases hfrom
    · cases hsent

/-- A message is sealed for what was prepared, be it sent at once or later. A request to send it
that fails after all does not fail at the check of a payload, not even with a raw message that does
not open. -/
structure Sealable (v : Vault) (sender : PublicKey) (recipients : List PublicKey)
    (options : PrivacyOptions) (prepared : Prepared) : Prop where
  direct : ∀ message entropy, ∃ p rest, v.enclave.encryptPayload message sender prepared.recipients
    prepared.metadata entropy = (.ok p, rest)
  stored : ∀ message before raw after, v.enclave.encryptRaw message sender before =
    (.ok raw, after) → ∀ entropy, ∃ p rest, v.enclave.encryptRawPayload raw prepared.recipients
      prepared.metadata entropy = (.ok p, rest)
  created : ∀ message entropy, ∃ p rest,
    v.create { message, sender, recipients, privacy := options } entropy = (.ok p, rest)
  sent : ∀ message entropy error, (v.send { message, sender, recipients, privacy := options }
    entropy).1 = .error error → ¬error.FromCheck
  sentSigned : ∀ hash record, v.raws.retrieve hash = .ok (some record) → record.sender = sender →
    ∀ entropy error, (v.sendSigned { hash, recipients, privacy := options } entropy).1 =
      .error error → ¬error.FromCheck

theorem not_fromCheck_of_sendSigned {request : SendSignedRequest} {record : EncryptedRawTransaction}
    {entropy : Entropy} (hretrieve : v.raws.retrieve request.hash = .ok (some record))
    (hprepare : v.prepare record.sender request.recipients request.privacy = .ok prepared)
    (herror : (v.sendSigned request entropy).1 = .error error) : ¬error.FromCheck := by
  cases hmaster : v.enclave.rawMasterKey record.toRaw with
  | ok masterKey =>
    obtain ⟨p, rest, hencrypt⟩ :=
      Enclave.exists_encryptRawPayload (suits_of_prepare hprepare) hmaster entropy
    rw [sendSigned_eq_persist hretrieve hprepare hencrypt] at herror
    exact not_fromCheck_of_persist herror
  | error reason =>
    have hsealing : Drawing.mapError TransactionError.enclave (v.enclave.encryptRawPayload
        record.toRaw prepared.recipients prepared.metadata) entropy =
          (.error (.enclave reason), entropy) := by
      rw [Enclave.encryptRawPayload, hmaster]
      rfl
    rw [sendSigned_eq_bind hretrieve hprepare, bind_of_error hsealing] at herror
    cases herror
    rcases Enclave.rawMasterKey_eq_error hmaster with rfl | rfl
    · exact nofun
    · exact nofun

/-- Where a request to send was prepared for a sender whose key is managed, sealing succeeds in
either way. `CipherSuite.opens_standard` is the law of opening for the suite that is in use. -/
theorem sealable_of_prepare (hopens : v.enclave.suite.Opens)
    (hmanages : v.enclave.manages sender = true)
    (hprepare : v.prepare sender recipients options = .ok prepared) :
    v.Sealable sender recipients options prepared := by
  have hsuits := suits_of_prepare hprepare
  have hdirect := Enclave.exists_encryptPayload hsuits hmanages
  refine ⟨hdirect, fun message before raw after hraw entropy => ?_, fun message entropy => ?_,
    fun message entropy error herror => ?_, fun hash record hretrieve hsender entropy error => ?_⟩
  · obtain ⟨masterKey, hmaster, -⟩ := Enclave.rawMasterKey_of_encryptRaw hopens hraw
    exact Enclave.exists_encryptRawPayload hsuits hmaster entropy
  · obtain ⟨p, rest, hencrypt⟩ := hdirect message entropy
    refine ⟨p, rest, ?_⟩
    rw [create, hprepare]
    exact Drawing.mapError_eq_ok_iff.mpr hencrypt
  · obtain ⟨p, rest, hencrypt⟩ := hdirect message entropy
    rw [send_eq_persist hprepare hencrypt] at herror
    exact not_fromCheck_of_persist herror
  · subst hsender
    exact not_fromCheck_of_sendSigned hretrieve hprepare

open CipherSuite (labelled)

/-- A message that may not be kept from one of its recipients. -/
def charter : PrivacyOptions where
  mode := .mandatoryRecipients
  mandatory := .ofList [.filled 3]

/-- What is prepared for it: each recipient once, the sender last. -/
def charterPrepared : Prepared where
  recipients := [.filled 2, .filled 3, .filled 1]
  metadata := { mode := .mandatoryRecipients, mandatory := .ofList [.filled 3] }

theorem prepare_charter : ({ emptyVault with enclave := holding 1 [] } : Vault).prepare (.filled 1)
    [.filled 2, .filled 3, .filled 2] charter = .ok charterPrepared := rfl

/-- A recipient is asked for twice and another one is mandatory. -/
theorem sealable_of_prepare_charter : labelled.Opens ∧ (holding 1 []).manages (.filled 1) = true ∧
    ({ emptyVault with enclave := holding 1 [] } : Vault).prepare (.filled 1)
      [.filled 2, .filled 3, .filled 2] charter = .ok charterPrepared ∧
    ({ emptyVault with enclave := holding 1 [] } : Vault).Sealable (.filled 1)
      [.filled 2, .filled 3, .filled 2] charter charterPrepared ∧
    ∃ p rest, (holding 1 []).encryptRawPayload draft charterPrepared.recipients
      charterPrepared.metadata (repeating 9) = (.ok p, rest) := by
  have hopens := CipherSuite.exact_labelled.opens_sealed
  have hmanages : (holding 1 []).manages (.filled 1) = true := by decide +kernel
  have hsealable := sealable_of_prepare hopens hmanages prepare_charter
  exact ⟨hopens, hmanages, prepare_charter, hsealable,
    hsealable.stored [7] (repeating 9) draft _ encryptRaw_repeating (repeating 9)⟩

end Vault

end SealedExchange
