import SealedExchange.Proofs.Exchange.Readable
import SealedExchange.Proofs.Exchange.Sending
import SealedExchange.Proofs.Privacy.SecurityHash

/-! # Sender and receiver agree on security hashes

The sender works out the security hashes of the affected messages from its own records and the
resolved recipients. The receiver works them out again from its records and the keys of its copy,
which come in another order. Since a security hash depends on the set of common recipients alone,
the two agree wherever the records have the same ciphertexts and the same sets of recipients.
-/

namespace SealedExchange

/-- What two stores hold under some hashes agrees in the ciphertexts and in the sets of the
recipients. Order and repeats of keys, and boxes, may differ. -/
def Store.AgreesOn (s t : Store EncryptedTransaction) (hashes : List MessageHash) : Prop :=
  ∀ hash ∈ hashes, ∀ q q', s.Holds hash q → t.Holds hash q' →
    q.cipherText = q'.cipherText ∧ ∀ key, key ∈ q.keys ↔ key ∈ q'.keys

namespace Vault

variable {a b : Vault} {sender key : PublicKey} {recipients : List PublicKey}
  {options : PrivacyOptions} {message : Bytes} {prepared : Prepared} {p copy : Payload}
  {entropy entropy' : Entropy}

/-- A message that is prepared claims the security hash of every affected message that is stored. -/
theorem get?_claims_of_prepare (hfiled : a.messages.Filed)
    (hprepare : a.prepare sender recipients options = .ok prepared) {hash : MessageHash}
    {claim : SecurityHash} :
    prepared.metadata.affected.get? hash = some claim ↔ hash ∈ options.affected ∧
      ∃ q, a.messages.Holds hash q ∧
        claim = Enclave.sharedSecurityHash (.ofList prepared.recipients) q := by
  obtain ⟨-, affected, hfind, -, hmetadata⟩ := prepare_eq_ok hprepare
  have hmem := Privacy.mem_findAffected_iff hfiled hfind
  rw [hmetadata, metadataFor, Privacy.securityHashes, SortedMap.get?_ofList_eq_some_iff,
    List.mem_map]
  · constructor
    · rintro ⟨tx, htx, heq⟩
      cases heq
      obtain ⟨hlisted, hholds⟩ := (hmem tx).mp htx
      exact ⟨hlisted, tx.payload, hholds, rfl⟩
    · rintro ⟨hlisted, q, hholds, rfl⟩
      exact ⟨⟨hash, q⟩, (hmem _).mpr ⟨hlisted, hholds⟩, rfl⟩
  -- Two entries of one hash come from one record.
  · intro entry hentry entry' hentry' hkey
    obtain ⟨tx, htx, rfl⟩ := List.mem_map.mp hentry
    obtain ⟨tx', htx', rfl⟩ := List.mem_map.mp hentry'
    have hsame : tx.hash = tx'.hash := hkey
    have hholds' := ((hmem tx').mp htx').2
    rw [← hsame] at hholds'
    rw [((hmem tx).mp htx).2.unique hholds']

/-- A payload made of a message, outside standard mode, and the copy of it for a recipient. -/
structure Copies (a : Vault) (message : Bytes) (sender : PublicKey) (recipients : List PublicKey)
    (options : PrivacyOptions) (key : PublicKey) (p copy : Payload) : Prop where
  made : ∃ prepared entropy entropy', a.prepare sender recipients options = .ok prepared ∧
    a.enclave.encryptPayload message sender prepared.recipients prepared.metadata entropy =
      (.ok p, entropy')
  not_standard : options.mode ≠ .standardPrivate
  copied : p.forRecipient key = some copy

namespace Copies

variable (h : a.Copies message sender recipients options key p copy)
include h

/-- The payload is made as it was prepared. -/
theorem exists_prepared : ∃ prepared, a.prepare sender recipients options = .ok prepared ∧
    p.keys = prepared.recipients ∧ p.toMetadata = prepared.metadata ∧ p.sender = sender ∧
    p.WellFormed := by
  obtain ⟨prepared, entropy, entropy', hprepare, hencrypt⟩ := h.made
  obtain ⟨draws, hseal⟩ := Enclave.exists_sealWith_of_encryptPayload hencrypt
  obtain ⟨hkeys, hmetadata, hsender⟩ := Enclave.frame_of_sealWith hseal
  exact ⟨prepared, hprepare, hkeys, hmetadata, hsender, Enclave.wellFormed_of_sealWith hseal⟩

theorem frame : copy.mode = options.mode ∧ copy.sender = sender ∧ copy.affected = p.affected ∧
    copy.WellFormed := by
  obtain ⟨prepared, hprepare, -, hmetadata, hsender, hwell⟩ := h.exists_prepared
  obtain ⟨-, affected, -, -, hprepared⟩ := prepare_eq_ok hprepare
  have hmode : p.mode = options.mode := congrArg Metadata.mode (hmetadata.trans hprepared)
  have hwell := hwell.forRecipient h.copied
  obtain ⟨box, -, rfl⟩ := Payload.forRecipient_eq_some_iff.mp h.copied
  exact ⟨hmode, hsender, rfl, hwell⟩

theorem keySet_eq : copy.keySet = p.keySet := by
  obtain ⟨hmode, -⟩ := h.frame
  have hcopied := h.copied
  obtain ⟨box, -, hcopy⟩ := Payload.forRecipient_eq_some_iff.mp hcopied
  refine Payload.keySet_forRecipient (fun hstandard => h.not_standard ?_) hcopied
  rw [← hmode, hcopy, hstandard]

/-- The claims of the copy are the security hashes of the sender's records and the keys of the
copy. -/
theorem get?_claims (hfiled : a.messages.Filed) {hash : MessageHash} {claim : SecurityHash} :
    copy.affected.get? hash = some claim ↔ hash ∈ options.affected ∧
      ∃ q, a.messages.Holds hash q ∧ claim = Enclave.sharedSecurityHash copy.keySet q := by
  obtain ⟨-, -, haffected, -⟩ := h.frame
  rw [haffected, h.keySet_eq]
  obtain ⟨prepared, hprepare, hkeys, hmetadata, -⟩ := h.exists_prepared
  have hclaims : p.affected = prepared.metadata.affected := congrArg Metadata.affected hmetadata
  rw [hclaims, get?_claims_of_prepare hfiled hprepare, Payload.keySet, hkeys]

theorem mem_keys_affected_iff (hfiled : a.messages.Filed) {hash : MessageHash} :
    hash ∈ copy.affected.keys ↔ hash ∈ options.affected ∧ ∃ q, a.messages.Holds hash q := by
  rw [SortedMap.mem_keys_iff, Option.isSome_iff_exists]
  constructor
  · rintro ⟨claim, hclaim⟩
    obtain ⟨hlisted, q, hq, -⟩ := (h.get?_claims hfiled).mp hclaim
    exact ⟨hlisted, q, hq⟩
  · rintro ⟨hlisted, q, hq⟩
    exact ⟨_, (h.get?_claims hfiled).mpr ⟨hlisted, q, hq, rfl⟩⟩

/-- Where the records agree with the sender's, no claim is found wrong. -/
theorem invalid_isEmpty (hfiled : a.messages.Filed) {s : Store EncryptedTransaction}
    (hagrees : a.messages.AgreesOn s options.affected) {affected : List AffectedTransaction}
    (haffected : ∀ tx ∈ affected, tx.hash ∈ options.affected ∧
      (∃ q, a.messages.Holds tx.hash q) ∧ s.Holds tx.hash tx.payload) :
    (Enclave.invalidSecurityHashes copy affected).isEmpty = true := by
  rw [Privacy.invalidSecurityHashes_isEmpty_iff]
  intro tx htx
  obtain ⟨hlisted, ⟨q, hq⟩, hholds⟩ := haffected tx htx
  obtain ⟨hcipher, hkeys⟩ := hagrees tx.hash hlisted q tx.payload hq hholds
  rw [← Enclave.sharedSecurityHash_congr hcipher hkeys]
  exact (h.get?_claims hfiled).mpr ⟨hlisted, q, hq, rfl⟩

end Copies

/-- A vault is ready for a new payload that another one has sent: it has the affected messages, at
least those that it must have, in the payload's mode and with the payload's sender among their
recipients. -/
structure Welcomes (v : Vault) (p : Payload) : Prop where
  filed : v.messages.Filed
  decodes : v.messages.Decodes p.affected.keys
  sound : v.messages.fault = none
  foreign : v.enclave.manages p.sender = false
  unknown : v.messages.records.get? p.hash = none
  complete : p.mode = .privateStateValidation →
    ∀ hash ∈ p.affected.keys, ∃ q, v.messages.Holds hash q
  admits : ∀ hash ∈ p.affected.keys, ∀ q, v.messages.Holds hash q →
    q.mode = p.mode ∧ p.sender ∈ q.keys

/-- A vault keeps a payload that it is ready for as it is, if no claim is wrong by its records. -/
theorem Welcomes.exists_store {v : Vault} (h : v.Welcomes p) (hwell : p.WellFormed)
    (hvalid : ∀ affected : List AffectedTransaction,
      (∀ tx ∈ affected, tx.hash ∈ p.affected.keys ∧ v.messages.Holds tx.hash tx.payload) →
        (Enclave.invalidSecurityHashes p affected).isEmpty = true)
    {bytes : Bytes} (hencode : v.codec.encode p = .ok bytes) :
    ∃ v', v.storePayload p = .ok (p.hash, v') ∧ v'.messages.Holds p.hash p := by
  -- Only a missing message could keep the claims from being looked up.
  rcases Privacy.resolveClaims_cases (p := p) h.filed h.decodes h.sound with
    ⟨affected, hresolve, -, hmem⟩ | ⟨-, hmode, hash, hlisted, hmissing⟩
  · have hadmits : ∀ tx ∈ affected, tx.payload.mode = p.mode ∧ p.sender ∈ tx.payload.keys := by
      intro tx htx
      obtain ⟨hlisted, hholds⟩ := (hmem tx).mp htx
      exact h.admits tx.hash hlisted tx.payload hholds
    have hscreens := screens_of_valid hresolve
      (hvalid affected fun tx htx => (hmem tx).mp htx) hadmits (checkOwn_of_foreign h.foreign)
    exact ⟨_, storePayload_keep hencode hscreens h.sound h.unknown,
      holds_keep (Codec.decode_of_encode (Payload.check_eq_ok_iff.mpr hwell) hencode)⟩
  · obtain ⟨q, hq⟩ := h.complete hmode hash hlisted
    exact absurd hq (hmissing q)

/-- Sender and receiver agree. The copy claims every affected message that the sender has, under the
hash of the recipients that the two messages share, and it claims no other. Where the receiver's
records of these messages have the same ciphertexts and the same sets of recipients as the sender's,
no claim of the copy is found wrong, and a receiver that is ready for the copy keeps it with all the
claims that the sender made, unless it is too long for a record. An affected message whose digest
differs from the claim is found. -/
theorem claims_agree (ha : a.messages.Filed)
    (hcopies : a.Copies message sender recipients options key p copy) :
    copy.mode = options.mode ∧ copy.sender = sender ∧ copy.affected = p.affected ∧
    (∀ hash claim, copy.affected.get? hash = some claim ↔ hash ∈ options.affected ∧
      ∃ q, a.messages.Holds hash q ∧
        claim = .derive (.ofList (q.keys.filter (· ∈ p.keys))) q.cipherText) ∧
    ∀ b : Vault,
      (a.messages.AgreesOn b.messages options.affected → ∀ affected : List AffectedTransaction,
        (∀ tx ∈ affected, tx.hash ∈ options.affected ∧ (∃ q, a.messages.Holds tx.hash q) ∧
          b.messages.Holds tx.hash tx.payload) →
          (Enclave.invalidSecurityHashes copy affected).isEmpty = true) ∧
      (a.messages.AgreesOn b.messages options.affected → b.Welcomes copy → b.codec = .bincode →
        copy.Fits → ∃ b', b.storePayload copy = .ok (copy.hash, b') ∧
          b'.messages.Holds copy.hash copy) ∧
      ∀ (affected : List AffectedTransaction), ∀ tx ∈ affected,
        p.affected.get? tx.hash ≠ some (.derive
          (.ofList (tx.payload.keys.filter (· ∈ p.keys))) tx.payload.cipherText) →
        tx.hash ∈ Enclave.invalidSecurityHashes copy affected := by
  obtain ⟨hmode, hsender, haffected, hwell⟩ := hcopies.frame
  refine ⟨hmode, hsender, haffected, fun hash claim => ?_, fun b => ⟨fun hagrees affected =>
    hcopies.invalid_isEmpty ha hagrees, fun hagrees hwelcomes hcodec hfits => ?_,
    fun affected tx htx hdiffers => ?_⟩⟩
  · simp only [hcopies.get?_claims ha, hcopies.keySet_eq, Enclave.sharedSecurityHash_eq]
  · obtain ⟨bytes, hencode⟩ := hfits.exists_encode
    rw [← hcodec] at hencode
    refine hwelcomes.exists_store hwell (fun affected htxs => ?_) hencode
    refine hcopies.invalid_isEmpty ha hagrees fun tx htx => ?_
    obtain ⟨hclaimed, hholds⟩ := htxs tx htx
    obtain ⟨hlisted, hheld⟩ := (hcopies.mem_keys_affected_iff ha).mp hclaimed
    exact ⟨hlisted, hheld, hholds⟩
  · rw [← Enclave.sharedSecurityHash_eq, ← hcopies.keySet_eq, ← haffected] at hdiffers
    rw [Enclave.invalidSecurityHashes, SortedSet.mem_ofList, List.mem_map]
    exact ⟨tx, List.mem_filter.mpr ⟨htx, decide_eq_true hdiffers⟩, rfl⟩

/-! ## Two records of one message -/

open CipherSuite (labelled)

/-- A message that is kept under a short hash, which no digest is. -/
def known : Payload where
  mode := .partyProtection
  sender := .filled 1
  cipherText := [7]
  nonce := []
  boxes := [[1]]
  recipientNonce := []
  keys := [.filled 1, .filled 2]

/-- The same message elsewhere: with another box, and with its keys in another order and one of them
twice. -/
def knownElsewhere : Payload :=
  { known with boxes := [[2]], keys := [.filled 2, .filled 1, .filled 2] }

/-- A vault that keeps one message. -/
def keeping (e : Enclave) (q : Payload) : Vault :=
  ({ enclave := e, messages := {}, raws := {}, codec := .bincode } : Vault).keep
    { EncryptedTransaction.asJson q with hash := ⟨[1]⟩ }

/-- Options for a message that affects the one that is kept. -/
def affecting : PrivacyOptions where
  mode := .partyProtection
  affected := [⟨[1]⟩]

/-- A reply to the message that is kept, for the second party. -/
def reply : Payload where
  mode := .partyProtection
  affected := SortedMap.empty.insert ⟨[1]⟩ (.derive (.ofList [.filled 1, .filled 2]) [7])
  sender := .filled 1
  cipherText := labelled.encrypt (List.replicate 32 9) (List.replicate 12 9) [8]
  nonce := List.replicate 12 9
  boxes := [2, 1].map fun b => labelled.encrypt
    (labelled.boxKey (filledSecret 1) (.filled b)) (List.replicate 12 9) (List.replicate 32 9)
  recipientNonce := List.replicate 12 9
  keys := [.filled 2, .filled 1]

/-- What the second party gets of it. -/
def replyCopy : Payload := { reply with boxes := reply.boxes.take 1 }

theorem payload_keeping {q : Payload} (hcheck : q.check = .ok ())
    (hclaims : q.affected.isEmpty = true) :
    ({ EncryptedTransaction.asJson q with hash := ⟨[1]⟩ } : EncryptedTransaction).payload = .ok q :=
  EncryptedTransaction.payload_asJson hcheck hclaims

theorem get?_keeping {e : Enclave} {q : Payload} {hash : MessageHash}
    {record : EncryptedTransaction}
    (hget : (keeping e q).messages.records.get? hash = some record) :
    hash = ⟨[1]⟩ ∧ record = { EncryptedTransaction.asJson q with hash := ⟨[1]⟩ } := by
  rw [keeping, get?_keep] at hget
  split at hget
  next heq => exact ⟨heq, (Option.some.inj hget).symm⟩
  next => cases hget

theorem eq_of_holds_keeping {e : Enclave} {q q' : Payload} {hash : MessageHash}
    (hcheck : q.check = .ok ()) (hclaims : q.affected.isEmpty = true)
    (hholds : (keeping e q).messages.Holds hash q') : q' = q := by
  obtain ⟨record, hget, hpayload⟩ := hholds
  obtain ⟨-, rfl⟩ := get?_keeping hget
  exact Except.ok.inj (hpayload.symm.trans (payload_keeping hcheck hclaims))

theorem readable_keeping {e : Enclave} {q : Payload} (hcheck : q.check = .ok ())
    (hclaims : q.affected.isEmpty = true) : (keeping e q).messages.Readable :=
  readable_keep (.of_empty rfl) (payload_keeping hcheck hclaims)

/-- The sender looks the message up that it affects. -/
theorem findAffected_keeping : Privacy.findAffected (keeping (holding 1 []) known).messages
    affecting.affected = .ok [⟨⟨[1]⟩, known⟩] := by
  have hfind : (keeping (holding 1 []) known).messages.find affecting.affected =
      .ok [{ EncryptedTransaction.asJson known with hash := ⟨[1]⟩ }] := rfl
  rw [Privacy.findAffected, Privacy.load, hfind, mapError_ok, ok_bind, Privacy.decodeAll,
    payload_keeping rfl rfl]
  rfl

theorem copies_reply : (keeping (holding 1 []) known).Copies [8] (.filled 1) [.filled 2] affecting
    (.filled 2) reply replyCopy := by
  have hprepare : (keeping (holding 1 []) known).prepare (.filled 1) [.filled 2] affecting =
      .ok
        { recipients := [.filled 2, .filled 1]
          metadata := metadataFor affecting [⟨⟨[1]⟩, known⟩] [.filled 2, .filled 1] } := by
    rw [prepare, findAffected_keeping]
    rfl
  exact ⟨⟨_, repeating 9, _, hprepare, rfl⟩, by decide, rfl⟩

theorem fits_replyCopy : replyCopy.Fits := by
  refine ⟨by decide, by decide, by decide, by decide, by decide, ⟨by decide, ?_⟩, by decide,
    by decide, fun id hid => by cases hid⟩
  intro entry hentry
  cases List.mem_singleton.mp hentry
  exact ⟨by decide, Crypto.Sha512.length_digest_lt _⟩

/-- The second party is ready for the reply. -/
theorem welcomes_replyCopy : (keeping (holding 2 []) knownElsewhere).Welcomes replyCopy where
  filed := (readable_keeping rfl rfl).filed
  decodes := (readable_keeping rfl rfl).decodesAt _
  sound := rfl
  foreign := by decide +kernel
  unknown := (get?_keep _ _).trans (if_neg (hash_ne_short _ _))
  complete hmode := by cases hmode
  admits _ _ q hholds := by
    obtain rfl := eq_of_holds_keeping rfl rfl hholds
    exact ⟨rfl, by decide⟩

theorem holds_keeping {e : Enclave} {q : Payload} (hcheck : q.check = .ok ())
    (hclaims : q.affected.isEmpty = true) : (keeping e q).messages.Holds ⟨[1]⟩ q :=
  holds_keep (payload_keeping hcheck hclaims)

/-- The second party finds nothing wrong with the claim of the first party and keeps the reply with
it, although their records of the message that it is about differ. -/
theorem claims_agree_reply : (keeping (holding 1 []) known).messages.Filed ∧
    (keeping (holding 1 []) known).Copies [8] (.filled 1) [.filled 2] affecting
      (.filled 2) reply replyCopy ∧
    (Enclave.invalidSecurityHashes replyCopy [⟨⟨[1]⟩, knownElsewhere⟩]).isEmpty = true ∧
    ∃ b', (keeping (holding 2 []) knownElsewhere).storePayload replyCopy =
        .ok (replyCopy.hash, b') ∧
      b'.messages.Holds replyCopy.hash replyCopy := by
  have hfiled : (keeping (holding 1 []) known).messages.Filed := (readable_keeping rfl rfl).filed
  obtain ⟨-, -, -, -, hagree⟩ := claims_agree hfiled copies_reply
  obtain ⟨hvalid, hstore, -⟩ := hagree (keeping (holding 2 []) knownElsewhere)
  have hagrees : (keeping (holding 1 []) known).messages.AgreesOn
      (keeping (holding 2 []) knownElsewhere).messages affecting.affected := by
    intro hash _ q q' hq hq'
    obtain rfl := eq_of_holds_keeping rfl rfl hq
    obtain rfl := eq_of_holds_keeping rfl rfl hq'
    exact ⟨rfl, fun key => by simp [known, knownElsewhere]; tauto⟩
  refine ⟨hfiled, copies_reply, hvalid hagrees _ fun tx htx => ?_,
    hstore hagrees welcomes_replyCopy rfl fits_replyCopy⟩
  cases List.mem_singleton.mp htx
  exact ⟨List.mem_singleton_self _, ⟨known, holds_keeping rfl rfl⟩, holds_keeping rfl rfl⟩

end Vault

end SealedExchange
