import SealedExchange.Node.Basic
import SealedExchange.Proofs.Exchange.Readable
import SealedExchange.Proofs.Exchange.Sending

/-! # From the sender to every recipient

A message that was sent can be read where it was sent from and, once its copy has come in, by every
recipient: with the recipient's key or without one, whatever other keys the recipient's node has.
-/

namespace SealedExchange.Vault

variable {v v' : Vault} {p : Payload} {suite : CipherSuite} {secret : SecretKey}
  {masterKey message : Bytes} {key : PublicKey}

/-! ## Reading -/

/-- A vault gives a message back: with its sender, its mode and its group, and as one of a key
that it manages. -/
def Returns (v : Vault) (request : ReceiveRequest) (message : Bytes) (sender : PublicKey)
    (options : PrivacyOptions) (party : PublicKey) : Prop :=
  ∃ response, v.receive request = .ok response ∧ response.message = message ∧
    response.sender = sender ∧ response.mode = options.mode ∧
    response.groupId = options.groupId ∧ party ∈ response.managedParties

theorem exists_visibleAffected {e : Enclave} {s : Store EncryptedTransaction}
    (hfault : s.fault = none) (hdecodes : s.Decodes p.affected.keys) (preferred : PublicKey) :
    ∃ affected, e.visibleAffected s p preferred = .ok affected := by
  rw [Enclave.visibleAffected]
  split
  next => exact ⟨_, rfl⟩
  next =>
    obtain ⟨known, hknown⟩ := Privacy.exists_findAffected hfault hdecodes
    rw [hknown, ok_bind]
    exact ⟨_, rfl⟩

/-- Whoever manages a key that has a box reads a stored payload, with the key or without. -/
theorem exists_receive (hopens : suite.Opens) (hmutual : suite.Mutual)
    (hv : v.enclave.Keyed suite) (hfault : v.messages.fault = none)
    (hholds : v.messages.Holds p.hash p) (hdecodes : v.messages.Decodes p.affected.keys)
    (hsealed : p.Sealed suite secret masterKey message) (hmanages : v.enclave.manages key = true)
    {box : Bytes} (hbox : p.boxFor? key = some box) {recipient : Option PublicKey}
    (hrecipient : recipient = none ∨ recipient = some key) :
    ∃ response, v.receive { hash := p.hash, recipient } = .ok response ∧
      response.message = message ∧ response.sender = p.sender ∧ response.mode = p.mode ∧
      response.groupId = p.groupId ∧ key ∈ response.managedParties := by
  obtain ⟨record, hget, hpayload⟩ := hholds
  have hload : v.loadPayload p.hash = .ok p := by
    have hretrieve : v.messages.retrieve p.hash = .ok (some record) :=
      Store.retrieve_eq_ok_iff.mpr ⟨hfault, hget⟩
    rw [loadPayload, hretrieve, mapError_ok, ok_bind]
    simp only [hpayload, mapError_ok]
  have hopened : ∃ found, v.openStored p.hash p recipient = .ok (found, message) := by
    rcases hrecipient with rfl | rfl
    · exact Enclave.exists_searchDecrypt_of_sealed hopens hmutual hv hsealed hmanages hbox
    · have hmessage := Enclave.decryptWith_of_sealed hopens hmutual hv hsealed hmanages hbox
      exact ⟨key, by rw [openStored, hmessage]⟩
  obtain ⟨found, hopened⟩ := hopened
  obtain ⟨affected, hvisible⟩ := exists_visibleAffected (e := v.enclave) hfault hdecodes found
  have hlisted := Payload.mem_keys_of_boxFor?_eq_some hbox
  have hkeyed : ¬p.isLegacy = true := Payload.not_isLegacy_of_boxFor? hbox
  have hparty : key ∈ v.enclave.managedParties p := by
    rw [Enclave.managedParties, if_neg hkeyed, SortedSet.mem_ofList, List.mem_filter]
    exact ⟨hlisted, hmanages⟩
  rw [receive, if_neg Bool.false_ne_true, hload, ok_bind, hopened, ok_bind]
  simp only [hvisible, ok_bind]
  exact ⟨_, rfl, rfl, rfl, rfl, rfl, hparty⟩

/-! ## Where the message comes from -/

/-- The vault that has sent a message reads it, with the key of a recipient that it manages or
without. -/
theorem returns_of_sent (hopens : suite.Opens) (hmutual : suite.Mutual)
    (hv : v.enclave.Keyed suite) {sender : PublicKey} {recipients : List PublicKey}
    {options : PrivacyOptions} {prepared : Prepared} {sent : Sent}
    (hprepare : v.prepare sender recipients options = .ok prepared)
    (hp : p.SealedFor suite message sender prepared.recipients prepared.metadata)
    (hpersist : v.persist p prepared.recipients = .ok sent)
    (hlisted : key ∈ prepared.recipients) (hmanages : v.enclave.manages key = true)
    {recipient : Option PublicKey} (hrecipient : recipient = none ∨ recipient = some key) :
    sent.vault.Returns { hash := sent.response.hash, recipient } message sender options key := by
  obtain ⟨record, hrecord, hfault, rfl⟩ := persist_eq_ok hpersist
  obtain ⟨hresolved, affected, haffected, -, hmetadata⟩ := prepare_eq_ok hprepare
  have hpayload := EncryptedTransaction.payload_of_ofPayload hp.wellFormed hrecord
  have hget : ∀ hash, (v.messages.records.insert p.hash record).get? hash =
      if hash = p.hash then some record else v.messages.records.get? hash :=
    fun hash => SortedMap.get?_insert _ _ hash _
  have hclaims : ∀ hash ∈ p.affected.keys, hash ∈ options.affected := by
    intro hash hmem
    have heq : p.affected = Privacy.securityHashes affected prepared.recipients :=
      congrArg Metadata.affected (hp.metadata_eq.trans hmetadata)
    rw [heq, Privacy.securityHashes, SortedMap.mem_keys_ofList, List.map_map] at hmem
    obtain ⟨tx, htx, rfl⟩ := List.mem_map.mp hmem
    exact Privacy.mem_refs_of_findAffected haffected tx htx
  have hdecodes : v.messages.Decodes p.affected.keys := fun hash hmem =>
    (Privacy.decodes_of_findAffected haffected).2 hash (hclaims hash hmem)
  obtain ⟨secret, masterKey, hsealed⟩ := hp.is_sealed
  obtain ⟨box, hbox⟩ := hp.boxed key hlisted
  obtain ⟨response, hreceive, hmessage, hsender, hmode, hgroup, hparty⟩ :=
    exists_receive (v := { v with
        messages := { v.messages with records := v.messages.records.insert p.hash record } })
      hopens hmutual hv hfault ⟨record, (hget p.hash).trans (if_pos rfl), hpayload⟩
      (hdecodes.insert hpayload hget) hsealed hmanages hbox hrecipient
  refine ⟨response, hreceive, hmessage, hsender.trans hp.sender_eq, ?_, ?_, hparty⟩
  · exact hmode.trans (congrArg Metadata.mode (hp.metadata_eq.trans hmetadata))
  · exact hgroup.trans (congrArg Metadata.groupId (hp.metadata_eq.trans hmetadata))

/-! ## Where the message goes to -/

/-- A copy that comes in where nothing is stored under its hash is stored as it is, but for claims
that it may lose, and looking up its claims afterwards succeeds. -/
theorem exists_stored_of_takesIn {copy : Payload} (hwell : copy.WellFormed)
    (htakes : v.TakesIn copy v') (hfree : v.messages.records.get? copy.hash = none) :
    ∃ affected, v'.messages.Holds copy.hash { copy with affected } ∧
      v'.messages.Decodes affected.keys ∧ v'.messages.fault = none ∧ v'.enclave = v.enclave := by
  obtain ⟨-, ⟨hnone, -⟩ | ⟨left, change, messages, hscreens, hfault, hchange, happly, rfl⟩⟩ :=
    storePayload_eq_ok_iff.mp htakes.stored
  · exact absurd hnone htakes.not_ignored
  · have hhash := hscreens.left_hash
    rw [← hhash] at hchange hfree
    obtain ⟨record, q, hcombines, hpayload, -, hget⟩ :=
      exists_record_of_apply (hscreens.left_wellFormed hwell) hchange happly
    rw [hfree] at hcombines
    cases hcombines
    have hdecodes : v.messages.Decodes left.affected.keys := by
      have hclaims := hscreens.left_claims
      obtain ⟨found, hresolve, -⟩ := hscreens
      intro hash hmem
      rcases Privacy.decodes_of_resolveClaims hresolve with hempty | hdecodes
      · rw [SortedMap.isEmpty, List.isEmpty_iff] at hempty
        have hkeys := hclaims hash hmem
        rw [SortedMap.keys, hempty] at hkeys
        cases hkeys
      · exact hdecodes hash (hclaims hash hmem)
    refine ⟨left.affected, ?_, hdecodes.insert hpayload hget, ?_, rfl⟩
    · rw [← hscreens.left_eq, ← hhash]
      exact ⟨record, (hget left.hash).trans (if_pos rfl), hpayload⟩
    · exact (fault_of_apply happly).trans hfault

/-- Whoever manages the key of a copy reads it once it has come in. -/
theorem returns_of_takesIn (hopens : suite.Opens) (hmutual : suite.Mutual)
    (hv : v.enclave.Keyed suite) {sender : PublicKey} {recipients : List PublicKey}
    {options : PrivacyOptions} {metadata : Metadata} {copy : Payload}
    (hp : p.SealedFor suite message sender recipients metadata)
    (hmode : metadata.mode = options.mode) (hgroup : metadata.groupId = options.groupId)
    (hcopy : p.forRecipient key = some copy) (hmanages : v.enclave.manages key = true)
    (hfree : v.messages.records.get? p.hash = none) (htakes : v.TakesIn copy v')
    {recipient : Option PublicKey} (hrecipient : recipient = none ∨ recipient = some key) :
    v'.Returns { hash := p.hash, recipient } message sender options key := by
  have hhash : copy.hash = p.hash := by
    obtain ⟨_, -, rfl⟩ := Payload.forRecipient_eq_some_iff.mp hcopy
    rfl
  rw [← hhash] at hfree ⊢
  obtain ⟨affected, hholds, hdecodes, hfault, henclave⟩ :=
    exists_stored_of_takesIn (hp.wellFormed.forRecipient hcopy) htakes hfree
  obtain ⟨secret, masterKey, hsealed⟩ := hp.is_sealed
  obtain ⟨box, -, hboxed⟩ := Payload.boxed_of_forRecipient hcopy
  have hbox : ({ copy with affected } : Payload).boxFor? key = some box := by
    have hlookup : copy.boxed.lookup key = some box := by rw [hboxed, List.lookup_cons_self]
    exact hlookup
  rw [← henclave] at hv hmanages
  obtain ⟨response, hreceive, hmessage, hsender, hmode', hgroup', hparty⟩ :=
    exists_receive hopens hmutual hv hfault hholds hdecodes
      ((hsealed.forRecipient hcopy).withClaims affected) hmanages hbox hrecipient
  have hframe : copy.sender = sender ∧ copy.toMetadata = metadata := by
    obtain ⟨_, -, rfl⟩ := Payload.forRecipient_eq_some_iff.mp hcopy
    exact ⟨hp.sender_eq, hp.metadata_eq⟩
  refine ⟨response, hreceive, hmessage, hsender.trans hframe.1, hmode'.trans ?_,
    hgroup'.trans ?_, hparty⟩
  · exact (congrArg Metadata.mode hframe.2).trans hmode
  · exact (congrArg Metadata.groupId hframe.2).trans hgroup

/-- What is pushed for a recipient is the recipient's copy. -/
theorem decode_of_pushTo {n : Node} (hwell : p.WellFormed) {url : String} {body : Bytes}
    (hpush : n.pushTo p key = some (url, body)) {copy : Payload}
    (hcopy : p.forRecipient key = some copy) : n.vault.codec.decode body = .ok copy := by
  obtain ⟨copy', hcopy', hpush⟩ := Option.bind_eq_some_iff.mp hpush
  cases hcopy'.symm.trans hcopy
  obtain ⟨_, -, hpush⟩ := Option.bind_eq_some_iff.mp hpush
  obtain ⟨_, hbody, hpush⟩ := Option.bind_eq_some_iff.mp hpush
  cases hpush
  cases hencode : n.vault.codec.encode copy with
  | error =>
    rw [hencode] at hbody
    cases hbody
  | ok encoded =>
    rw [hencode] at hbody
    cases hbody
    exact Codec.decode_of_encode (Payload.check_eq_ok_iff.mpr (hwell.forRecipient hcopy)) hencode

/-- A message that was sent is read where it was sent from, and its copies are for all recipients
that are managed elsewhere. What is pushed for such a recipient is its copy, and a node that manages
the recipient's key and takes the copy in reads the message, with the key or without. -/
theorem delivered_of_sends (hopens : suite.Opens) (hmutual : suite.Mutual)
    (hv : v.enclave.Keyed suite) {sender : PublicKey} {recipients : List PublicKey}
    {options : PrivacyOptions} {sent : Sent}
    (hsends : Sends v message sender recipients options sent) :
    (∀ recipient, recipient = none ∨ recipient = some sender → sent.vault.Returns
      { hash := sent.response.hash, recipient } message sender options sender) ∧
    (∀ key ∈ recipients, v.enclave.manages key = false → key ∈ sent.publication.recipients) ∧
    ∀ key ∈ sent.publication.recipients, ∃ copy,
      sent.publication.payload.forRecipient key = some copy ∧
      (∀ registry url body,
        ({ vault := sent.vault, registry } : Node).pushTo sent.publication.payload key =
          some (url, body) → sent.vault.codec.decode body = .ok copy) ∧
      ∀ b b' : Vault, b.enclave.Keyed suite → b.enclave.manages key = true →
        b.messages.records.get? sent.response.hash = none → b.TakesIn copy b' →
        ∀ recipient, recipient = none ∨ recipient = some key → b'.Returns
          { hash := sent.response.hash, recipient } message sender options key := by
  obtain ⟨prepared, p, hprepare, hp, hmanages, hpersist⟩ := hsends.exists_payload hopens hv
  obtain ⟨record, -, -, hsent⟩ := persist_eq_ok hpersist
  obtain ⟨hresolved, affected, -, -, hmetadata⟩ := prepare_eq_ok hprepare
  have hlisted : ∀ key, key = sender ∨ key ∈ recipients → key ∈ prepared.recipients := by
    intro key hkey
    rw [hresolved, mem_resolveRecipients]
    exact hkey.elim (fun h => .inr (.inl h)) .inl
  refine ⟨fun recipient hrecipient => ?_, fun key hkey hremote => ?_, fun key hkey => ?_⟩
  · exact returns_of_sent hopens hmutual hv hprepare hp hpersist (hlisted sender (.inl rfl))
      hmanages hrecipient
  · rw [hsent]
    exact List.mem_filter.mpr ⟨hlisted key (.inr hkey), by simp [hremote]⟩
  · rw [hsent] at hkey ⊢
    obtain ⟨box, hbox⟩ := hp.boxed key (List.mem_filter.mp hkey).1
    obtain ⟨copy, hcopy⟩ := Payload.exists_forRecipient hbox
    refine ⟨copy, hcopy, fun _ _ _ hpush => decode_of_pushTo hp.wellFormed hpush hcopy, ?_⟩
    intro b b' hb hmanages hfree htakes recipient hrecipient
    exact returns_of_takesIn hopens hmutual hb hp (by rw [hmetadata]; rfl) (by rw [hmetadata]; rfl)
      hcopy hmanages hfree htakes hrecipient

/-! ## A message for two parties -/

open CipherSuite (labelled)

/-- A request to send a message to two parties that shall know of each other. -/
def letterRequest : SendRequest where
  message := [7]
  sender := .filled 1
  recipients := [.filled 2, .filled 3]
  privacy := { mode := .partyProtection }

/-- The copy of the message for the second party, which lists the first one too. -/
def letterCopy : Payload where
  mode := .partyProtection
  sender := .filled 1
  cipherText := labelled.encrypt (List.replicate 32 9) (List.replicate 12 9) [7]
  nonce := List.replicate 12 9
  boxes := [labelled.encrypt (labelled.boxKey (filledSecret 1) (.filled 3)) (List.replicate 12 9)
    (List.replicate 32 9)]
  recipientNonce := List.replicate 12 9
  keys := [.filled 3, .filled 2, .filled 1]

/-- The request succeeds, with random bytes that are all equal. -/
theorem exists_send_letter : ∃ sent rest,
    ({ emptyVault with enclave := holding 1 [] } : Vault).send letterRequest (repeating 9) =
      (.ok sent, rest) ∧ sent.publication.recipients = [.filled 2, .filled 3] ∧
      sent.publication.payload.forRecipient (.filled 3) = some letterCopy ∧
      sent.response.hash = letterCopy.hash :=
  ⟨_, _, rfl, rfl, rfl, rfl⟩

/-- A node that has the keys of both parties takes the copy in. -/
theorem exists_takesIn_letter : ∃ v, emptyVault.TakesIn letterCopy v := by
  refine ⟨_, rfl, ?_⟩
  rintro ⟨affected, hresolve, hignored⟩
  cases hresolve
  cases hignored

theorem keyed_holding (first : UInt8) (rest : List UInt8) : (holding first rest).Keyed labelled :=
  Enclave.keyed_of_ofSecrets? (ofSecrets?_holding first rest)

/-- The node tries the key of the first party, which has no box in the copy, before that of the
second. -/
theorem delivered_of_sends_letter : labelled.Opens ∧ labelled.Mutual ∧ ∃ sent v,
    Sends { emptyVault with enclave := holding 1 [] } [7] (.filled 1) [.filled 2, .filled 3]
      { mode := .partyProtection } sent ∧
    emptyVault.enclave.candidateKeys letterCopy = [.filled 2, .filled 3] ∧
    emptyVault.TakesIn letterCopy v ∧
    v.Returns { hash := sent.response.hash } [7] (.filled 1) { mode := .partyProtection }
      (.filled 3) := by
  obtain ⟨sent, rest, hsend, hrecipients, hcopy, hhash⟩ := exists_send_letter
  obtain ⟨v, htakes⟩ := exists_takesIn_letter
  have hopens := CipherSuite.exact_labelled.opens_sealed
  have hsends := Sends.direct hsend
  obtain ⟨-, -, hdelivered⟩ :=
    delivered_of_sends hopens CipherSuite.mutual_labelled (keyed_holding 1 []) hsends
  have hlisted : PublicKey.filled 3 ∈ sent.publication.recipients := by
    rw [hrecipients]
    exact List.mem_cons_of_mem _ List.mem_cons_self
  obtain ⟨copy, hcopy', -, hreturns⟩ := hdelivered (.filled 3) hlisted
  cases hcopy.symm.trans hcopy'
  have hfree : emptyVault.messages.records.get? sent.response.hash = none :=
    SortedMap.get?_empty _
  exact ⟨hopens, CipherSuite.mutual_labelled, sent, v, hsends, by decide +kernel, htakes,
    hreturns emptyVault v (keyed_holding 2 [3]) (by decide +kernel) hfree htakes none (.inl rfl)⟩

end SealedExchange.Vault
