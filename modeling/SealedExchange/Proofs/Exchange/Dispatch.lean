import SealedExchange.Proofs.Exchange.Readable
import SealedExchange.Proofs.Exchange.Sending
import SealedExchange.Proofs.Sorted.Distinct

/-! # What a request to send leaves behind

`Vault.send` gives back what a request leads to. Here the request is carried out one effect after
the other, and what the store and the publisher get to see is written down: the payload is handed
over only after its record was saved. Both agree, so a request that succeeds has saved one record,
under a hash that was free, and has then published the payload of that record once, and a request
that fails has done neither.
-/

namespace SealedExchange

/-- What the store or the publisher gets to see of a request. -/
inductive Outward
  | saved (record : EncryptedTransaction)
  | published (publication : Publication)

/-- A vault at work on a request to send, with what others have seen of it and the random bytes that
are still to come. -/
structure Dispatch where
  vault : Vault
  trace : List Outward
  entropy : Entropy

/-- A computation on a vault at work. It may fail, and its effects up to then remain. -/
abbrev Dispatching := ExceptT TransactionError (StateM Dispatch)

namespace Dispatching

variable {α : Type}

/-! ## Single effects -/

/-- The vault as it is. -/
def look : Dispatching Vault := fun d => (.ok d.vault, d)

/-- Draws random bytes. -/
def draws (x : Drawing TransactionError α) : Dispatching α := fun d =>
  let (r, entropy) := x d.entropy
  (r, { d with entropy })

/-- A result that has no effect. -/
def ofExcept (r : Except TransactionError α) : Dispatching α := draws (Drawing.ofExcept r)

/-- Saves a record, unless the store refuses. -/
def save (record : EncryptedTransaction) : Dispatching Unit := fun d =>
  match d.vault.messages.save record with
  | .ok messages =>
    (.ok (), { d with vault.messages := messages, trace := d.trace ++ [.saved record] })
  | .error e => (.error (.storage e), d)

/-- Saves a record and then does something else. -/
def saveThen (record : EncryptedTransaction) (onCommit : Dispatching Unit) : Dispatching Unit := do
  save record
  onCommit

/-- Hands a payload over to be pushed to its recipients. -/
def publish (publication : Publication) : Dispatching Unit := fun d =>
  (.ok (), { d with trace := d.trace ++ [.published publication] })

/-! ## Requests -/

/-- Keeps a new payload, and then hands it over for the recipients that are not managed here. -/
def persist (p : Payload) (recipients : List PublicKey) : Dispatching SendResponse := do
  let v ← look
  let record ← ofExcept ((EncryptedTransaction.ofPayload p v.codec).mapError .codec)
  saveThen record <| publish
    { payload := p, recipients := recipients.filter fun key => !v.enclave.manages key }
  pure
    { hash := p.hash
      sender := p.sender
      managedParties := .ofList (recipients.filter v.enclave.manages) }

/-- Sends a message. -/
def send (request : SendRequest) : Dispatching SendResponse := do
  let v ← look
  let prepared ← ofExcept (v.prepare request.sender request.recipients request.privacy)
  let p ← draws (Drawing.mapError .enclave
    (v.enclave.encryptPayload request.message request.sender prepared.recipients prepared.metadata))
  persist p prepared.recipients

/-- Sends a message that was stored before. -/
def sendSigned (request : SendSignedRequest) : Dispatching SendResponse := do
  let v ← look
  let found ← ofExcept ((v.raws.retrieve request.hash).mapError .storage)
  match found with
  | none => ofExcept (.error (.rawNotFound request.hash))
  | some record => do
    let prepared ← ofExcept (v.prepare record.sender request.recipients request.privacy)
    let p ← draws (Drawing.mapError .enclave
      (v.enclave.encryptRawPayload record.toRaw prepared.recipients prepared.metadata))
    persist p prepared.recipients

/-! ## Both come to the same -/

/-- How a request ends: it has saved the record of its payload and then published the payload, or it
has failed and nothing has happened. -/
inductive Ends (v : Vault) :
    Except TransactionError Sent × Entropy → Except TransactionError SendResponse × Dispatch → Prop
  | sent {sent : Sent} {record : EncryptedTransaction} {rest : Entropy}
      (hrecord : EncryptedTransaction.ofPayload sent.publication.payload v.codec = .ok record) :
      Ends v (.ok sent, rest)
        (.ok sent.response,
          { vault := sent.vault
            trace := [.saved record, .published sent.publication]
            entropy := rest })
  | failed {e : TransactionError} {rest : Entropy} :
      Ends v (.error e, rest) (.error e, { vault := v, trace := [], entropy := rest })

theorem Ends.of_sent {v : Vault} {sent : Sent} {rest : Entropy}
    {run : Except TransactionError SendResponse × Dispatch} (h : Ends v (.ok sent, rest) run) :
    ∃ record, EncryptedTransaction.ofPayload sent.publication.payload v.codec = .ok record ∧
      run = (.ok sent.response,
        { vault := sent.vault
          trace := [.saved record, .published sent.publication]
          entropy := rest }) := by
  cases h with
  | sent hrecord => exact ⟨_, hrecord, rfl⟩

theorem Ends.of_failed {v : Vault} {e : TransactionError} {rest : Entropy}
    {run : Except TransactionError SendResponse × Dispatch} (h : Ends v (.error e, rest) run) :
    run = (.error e, { vault := v, trace := [], entropy := rest }) := by
  cases h with
  | failed => rfl

/-- Carried out effect by effect, a request ends as the vault says. -/
def Follows (v : Vault) (act : Dispatching SendResponse) (x : Drawing TransactionError Sent) :
    Prop :=
  ∀ entropy, Ends v (x entropy) (act { vault := v, trace := [], entropy })

variable {v : Vault}

theorem Follows.look_bind {k : Vault → Dispatching SendResponse}
    {x : Drawing TransactionError Sent} (h : Follows v (k v) x) : Follows v (look >>= k) x := by
  intro entropy
  have hlook : look { vault := v, trace := [], entropy } =
      (.ok v, { vault := v, trace := [], entropy }) := rfl
  rw [bind_of_ok hlook]
  exact h entropy

theorem Follows.draws_bind {x : Drawing TransactionError α} {k : α → Dispatching SendResponse}
    {k' : α → Drawing TransactionError Sent} (h : ∀ a, Follows v (k a) (k' a)) :
    Follows v (draws x >>= k) (x >>= k') := by
  intro entropy
  cases hx : x entropy with
  | mk result rest =>
    have hdraws : draws x { vault := v, trace := [], entropy } =
        (result, { vault := v, trace := [], entropy := rest }) := by
      rw [draws, hx]
    cases result with
    | error e =>
      rw [bind_of_error hdraws, bind_of_error hx]
      exact .failed
    | ok a =>
      rw [bind_of_ok hdraws, bind_of_ok hx]
      exact h a rest

section Saving

variable {record : EncryptedTransaction} {onCommit : Dispatching Unit} {publication : Publication}
  {d : Dispatch}

/-- What is to follow a save does not happen if the save fails. -/
theorem saveThen_of_error {e : StorageError} (hsave : d.vault.messages.save record = .error e) :
    saveThen record onCommit d = (.error (.storage e), d) :=
  bind_of_error (by rw [save, hsave])

theorem saveThen_publish_of_ok {messages : Store EncryptedTransaction}
    (hsave : d.vault.messages.save record = .ok messages) :
    saveThen record (publish publication) d =
      (.ok (), { d with
        vault.messages := messages
        trace := d.trace ++ [.saved record] ++ [.published publication] }) := by
  have hsaved : save record d =
      (.ok (), { d with vault.messages := messages, trace := d.trace ++ [.saved record] }) := by
    rw [save, hsave]
  exact bind_of_ok hsaved

end Saving

/-- Nothing has been saved when encoding or saving fails, and publishing cannot fail. -/
theorem follows_persist (p : Payload) (recipients : List PublicKey) :
    Follows v (persist p recipients) (Drawing.ofExcept (v.persist p recipients)) := by
  refine Follows.look_bind fun entropy => ?_
  rw [Vault.persist]
  cases hrecord : EncryptedTransaction.ofPayload p v.codec with
  | error e => exact .failed
  | ok record =>
    -- Only the save can still fail, and it fails on both sides.
    change Ends v (Drawing.ofExcept ((v.messages.save record).mapError .storage >>= _) entropy)
      ((saveThen record _ >>= _ : Dispatching SendResponse) _)
    cases hsave : v.messages.save record with
    | error e =>
      rw [bind_of_error (saveThen_of_error (d := { vault := v, trace := [], entropy }) hsave)]
      exact .failed
    | ok messages =>
      rw [bind_of_ok (saveThen_publish_of_ok (d := { vault := v, trace := [], entropy }) hsave)]
      exact .sent hrecord

theorem follows_send (request : SendRequest) : Follows v (send request) (v.send request) := by
  refine Follows.look_bind (Follows.draws_bind fun prepared => Follows.draws_bind fun p => ?_)
  exact follows_persist p prepared.recipients

theorem follows_sendSigned (request : SendSignedRequest) :
    Follows v (sendSigned request) (v.sendSigned request) := by
  refine Follows.look_bind (Follows.draws_bind fun found => ?_)
  cases found with
  | none => exact fun entropy => .failed
  | some record =>
    refine Follows.draws_bind fun prepared => Follows.draws_bind fun p => ?_
    exact follows_persist p prepared.recipients

end Dispatching

/-! ## What is left behind -/

/-- Every key of a payload has a box in its place, and all boxes hold one master key. -/
def Enclave.Boxes (e : Enclave) (p : Payload) : Prop :=
  ∃ masterKey, List.Forall₂ (fun key box => ∃ secret, e.keys.get? p.sender = some secret ∧
    box = e.suite.encrypt (e.suite.boxKey secret key) p.recipientNonce masterKey) p.keys p.boxes

theorem Enclave.boxes_of_sealWith {e : Enclave} {draws : Enclave.PayloadDraws} {message : Bytes}
    {sender : PublicKey} {recipients : List PublicKey} {metadata : Metadata} {p : Payload}
    (hseal : e.sealWith draws message sender recipients metadata = .ok p) : e.Boxes p := by
  obtain ⟨boxes, hboxes, hassemble⟩ := bind_eq_ok_iff.mp hseal
  obtain ⟨-, rfl⟩ := assemble_eq_ok_iff.mp hassemble
  exact ⟨draws.masterKey, sealBoxes_eq_ok hboxes⟩

theorem Enclave.boxes_of_addressWith {e : Enclave} {masterKey recipientNonce : Bytes}
    {raw : RawTransaction} {recipients : List PublicKey} {metadata : Metadata} {p : Payload}
    (haddress : e.addressWith masterKey recipientNonce raw recipients metadata = .ok p) :
    e.Boxes p := by
  obtain ⟨boxes, hboxes, hassemble⟩ := bind_eq_ok_iff.mp haddress
  obtain ⟨-, rfl⟩ := assemble_eq_ok_iff.mp hassemble
  exact ⟨masterKey, sealBoxes_eq_ok hboxes⟩

namespace Vault

/-- What a request to send leaves behind: a payload as it was prepared, with its record and its
publication. -/
structure Dispatched (v : Vault) (sender : PublicKey) (requested : List PublicKey)
    (options : PrivacyOptions) (prepared : Prepared) (p : Payload) (record : EncryptedTransaction)
    (sent : Sent) : Prop where
  prepares : v.prepare sender requested options = .ok prepared
  free : v.messages.records.get? sent.response.hash = none
  /-- One record is new and every other one is as it was. -/
  kept : ∀ hash, sent.vault.messages.records.get? hash =
    if hash = sent.response.hash then some record else v.messages.records.get? hash
  /-- Nothing but the stored messages has changed. -/
  others : sent.vault =
    { v with messages := { v.messages with records := sent.vault.messages.records } }
  encoded : EncryptedTransaction.ofPayload p v.codec = .ok record
  decoded : record.payload = .ok p
  /-- The keys asked for, the sender and, in standard mode, the forwarding keys, each at its first
  place. -/
  keys : p.keys = (requested ++ [sender] ++
    if options.mode = .standardPrivate then v.enclave.forwarding.elems else []).eraseDups
  nodup : p.keys.Nodup
  boxes : v.enclave.Boxes p
  metadata : p.toMetadata = prepared.metadata
  hash : sent.response.hash = .ofCipherText p.cipherText
  sender : p.sender = sender ∧ sent.response.sender = sender
  managed : ∀ key, key ∈ sent.response.managedParties ↔ key ∈ p.keys ∧ v.enclave.manages key = true
  publication : sent.publication =
    { payload := p, recipients := p.keys.filter fun key => !v.enclave.manages key }

variable {v : Vault} {sender : PublicKey} {requested : List PublicKey} {options : PrivacyOptions}
  {prepared : Prepared} {p : Payload} {record : EncryptedTransaction} {sent : Sent}

theorem resolveRecipients_eq_eraseDups (e : Enclave) (mode : PrivacyMode) :
    resolveRecipients e sender requested mode = (requested ++ [sender] ++
      if mode = .standardPrivate then e.forwarding.elems else []).eraseDups := by
  rw [resolveRecipients, Sorted.appendNew_nil_left, List.append_assoc, List.singleton_append]

theorem dispatched_of_persist (hprepare : v.prepare sender requested options = .ok prepared)
    (hwell : p.WellFormed) (hkeys : p.keys = prepared.recipients)
    (hmetadata : p.toMetadata = prepared.metadata) (hsender : p.sender = sender)
    (hboxes : v.enclave.Boxes p) (hpersist : v.persist p prepared.recipients = .ok sent)
    (hrecord : EncryptedTransaction.ofPayload sent.publication.payload v.codec = .ok record) :
    v.Dispatched sender requested options prepared p record sent := by
  have hresolved := (prepare_eq_ok hprepare).1
  have hfree := free_of_persist hpersist
  obtain ⟨record', hrecord', -, rfl⟩ := persist_eq_ok hpersist
  obtain rfl : record' = record := Except.ok.inj (hrecord'.symm.trans hrecord)
  rw [← hkeys]
  refine
    { prepares := hprepare
      free := hfree
      kept := fun hash => SortedMap.get?_insert _ _ _ _
      others := rfl
      encoded := hrecord
      decoded := EncryptedTransaction.payload_of_ofPayload hwell hrecord
      keys := ?_
      nodup := ?_
      boxes := hboxes
      metadata := hmetadata
      hash := rfl
      sender := ⟨hsender, hsender⟩
      managed := fun key => ?_
      publication := rfl }
  · rw [hkeys, hresolved, resolveRecipients_eq_eraseDups]
  · rw [hkeys, hresolved]
    exact Sorted.nodup_appendNew _
  · rw [SortedSet.mem_ofList, List.mem_filter]

/-- A request to send that succeeds leaves behind what it should, and has saved one record before it
published the payload once. A request that fails has changed and published nothing. -/
theorem dispatched_of_send (v : Vault) (entropy : Entropy) :
    (∀ request sent rest, v.send request entropy = (.ok sent, rest) → ∃ prepared p record,
      v.Dispatched request.sender request.recipients request.privacy prepared p record sent ∧
      Dispatching.send request { vault := v, trace := [], entropy } =
        (.ok sent.response,
          { vault := sent.vault
            trace := [.saved record, .published sent.publication]
            entropy := rest })) ∧
    (∀ request e rest, v.send request entropy = (.error e, rest) →
      Dispatching.send request { vault := v, trace := [], entropy } =
        (.error e, { vault := v, trace := [], entropy := rest })) ∧
    (∀ request sent rest, v.sendSigned request entropy = (.ok sent, rest) →
      ∃ raw prepared p record, v.raws.records.get? request.hash = some raw ∧
      v.Dispatched raw.sender request.recipients request.privacy prepared p record sent ∧
      Dispatching.sendSigned request { vault := v, trace := [], entropy } =
        (.ok sent.response,
          { vault := sent.vault
            trace := [.saved record, .published sent.publication]
            entropy := rest })) ∧
    ∀ request e rest, v.sendSigned request entropy = (.error e, rest) →
      Dispatching.sendSigned request { vault := v, trace := [], entropy } =
        (.error e, { vault := v, trace := [], entropy := rest }) := by
  refine ⟨?_, ?_, ?_, ?_⟩
  · intro request sent rest hsend
    obtain ⟨prepared, p, _, hprepare, hencrypt, hpersist⟩ := send_eq_ok hsend
    obtain ⟨draws, hseal⟩ := Enclave.exists_sealWith_of_encryptPayload hencrypt
    obtain ⟨hkeys, hmetadata, hsender⟩ := Enclave.frame_of_sealWith hseal
    obtain ⟨record, hrecord, hrun⟩ :=
      (hsend ▸ Dispatching.follows_send (v := v) request entropy).of_sent
    exact ⟨prepared, p, record, dispatched_of_persist hprepare
      (Enclave.wellFormed_of_sealWith hseal) hkeys hmetadata hsender
      (Enclave.boxes_of_sealWith hseal) hpersist hrecord, hrun⟩
  · intro request e rest hsend
    exact (hsend ▸ Dispatching.follows_send (v := v) request entropy).of_failed
  · intro request sent rest hsend
    obtain ⟨raw, prepared, p, _, hraw, hprepare, hencrypt, hpersist⟩ := sendSigned_eq_ok hsend
    obtain ⟨masterKey, recipientNonce, -, haddress⟩ :=
      Enclave.exists_addressWith_of_encryptRawPayload hencrypt
    obtain ⟨hkeys, hmetadata, hsender⟩ := Enclave.frame_of_addressWith haddress
    obtain ⟨record, hrecord, hrun⟩ :=
      (hsend ▸ Dispatching.follows_sendSigned (v := v) request entropy).of_sent
    exact ⟨raw, prepared, p, record, hraw, dispatched_of_persist hprepare
      (Enclave.wellFormed_of_addressWith haddress) hkeys hmetadata hsender
      (Enclave.boxes_of_addressWith haddress) hpersist hrecord, hrun⟩
  · intro request e rest hsend
    exact (hsend ▸ Dispatching.follows_sendSigned (v := v) request entropy).of_failed

/-! ## A message with repeated recipients -/

/-- A vault that has two keys, forwards to two others and keeps a draft. -/
def forwarder : Vault :=
  { emptyVault with
    enclave := { holding 1 [3] with forwarding := .ofList [.filled 4, .filled 2] }
    raws := { records := SortedMap.empty.insert ⟨[9]⟩ (.ofRaw draft) } }

/-- A request that names a party twice and the sender as well. -/
def repeatedRequest (sender : UInt8) : SendRequest where
  message := [7]
  sender := .filled sender
  recipients := [.filled 2, .filled 3, .filled 2, .filled 1]
  privacy := {}

/-- A request to send the draft to the second party. -/
def forwardDraft : SendSignedRequest where
  hash := ⟨[9]⟩
  recipients := []
  privacy := {}

/-- The parties that are named come first, and the one that is named twice gets no second box. A
sender without a key here leaves everything as it was. -/
theorem dispatched_of_send_forwarder :
    (∃ sent rest record, forwarder.send (repeatedRequest 1) (repeating 9) = (.ok sent, rest) ∧
      sent.publication.payload.keys = [.filled 2, .filled 3, .filled 1, .filled 4] ∧
      sent.publication.recipients = [.filled 2, .filled 4] ∧
      (Dispatching.send (repeatedRequest 1) ⟨forwarder, [], repeating 9⟩).2.trace =
        [.saved record, .published sent.publication]) ∧
    (∃ e rest, forwarder.send (repeatedRequest 5) (repeating 9) = (.error e, rest) ∧
      Dispatching.send (repeatedRequest 5) ⟨forwarder, [], repeating 9⟩ =
        (.error e, ⟨forwarder, [], rest⟩)) ∧
    (∃ sent rest record, forwarder.sendSigned forwardDraft (repeating 9) = (.ok sent, rest) ∧
      sent.publication.payload.keys = [.filled 1, .filled 2, .filled 4] ∧
      (Dispatching.sendSigned forwardDraft ⟨forwarder, [], repeating 9⟩).2.trace =
        [.saved record, .published sent.publication]) ∧
    ∃ e rest, forwarder.sendSigned { forwardDraft with hash := ⟨[8]⟩ } (repeating 9) =
        (.error e, rest) ∧
      Dispatching.sendSigned { forwardDraft with hash := ⟨[8]⟩ } ⟨forwarder, [], repeating 9⟩ =
        (.error e, ⟨forwarder, [], rest⟩) := by
  obtain ⟨hsent, hfailed, hsigned, hunsigned⟩ := dispatched_of_send forwarder (repeating 9)
  have hsend : ∃ sent rest, forwarder.send (repeatedRequest 1) (repeating 9) =
      (.ok sent, rest) := ⟨_, _, rfl⟩
  have hrefused : ∃ e rest, forwarder.send (repeatedRequest 5) (repeating 9) =
      (.error e, rest) := ⟨_, _, rfl⟩
  have hsend' : ∃ sent rest, forwarder.sendSigned forwardDraft (repeating 9) =
      (.ok sent, rest) := ⟨_, _, rfl⟩
  have hmissing : ∃ e rest, forwarder.sendSigned { forwardDraft with hash := ⟨[8]⟩ }
      (repeating 9) = (.error e, rest) := ⟨_, _, rfl⟩
  refine ⟨?_, ?_, ?_, ?_⟩
  · obtain ⟨sent, rest, hsend⟩ := hsend
    obtain ⟨prepared, p, record, hdispatched, hrun⟩ := hsent _ _ _ hsend
    have hkeys : p.keys = [.filled 2, .filled 3, .filled 1, .filled 4] :=
      hdispatched.keys.trans (by decide)
    refine ⟨sent, rest, record, hsend, ?_, ?_, by rw [hrun]⟩
    · rw [hdispatched.publication]
      exact hkeys
    · rw [hdispatched.publication]
      dsimp only
      rw [hkeys]
      decide
  · obtain ⟨e, rest, hrefused⟩ := hrefused
    exact ⟨e, rest, hrefused, hfailed _ _ _ hrefused⟩
  · obtain ⟨sent, rest, hsend⟩ := hsend'
    obtain ⟨raw, prepared, p, record, hraw, hdispatched, hrun⟩ := hsigned _ _ _ hsend
    obtain rfl : EncryptedRawTransaction.ofRaw draft = raw := Option.some.inj hraw
    refine ⟨sent, rest, record, hsend, ?_, by rw [hrun]⟩
    rw [hdispatched.publication]
    exact hdispatched.keys.trans (by decide)
  · obtain ⟨e, rest, hmissing⟩ := hmissing
    exact ⟨e, rest, hmissing, hunsigned _ _ _ hmissing⟩

end Vault

end SealedExchange
