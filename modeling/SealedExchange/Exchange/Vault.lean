import SealedExchange.Exchange.Opening

/-! # The vault

A vault is an enclave with the messages that are kept sealed under its keys. This module holds
what a vault does at the request of its owner: sending a message, storing one to be sent later,
and reading what it holds. A function that changes the vault returns the new one; one that fails
changes nothing.
-/

namespace SealedExchange

/-- An enclave and the messages kept for it. -/
structure Vault where
  enclave : Enclave
  messages : Store EncryptedTransaction
  raws : Store EncryptedRawTransaction
  /-- The codec that new records are written in. -/
  codec : Codec

/-- What a request to send says about privacy. -/
structure PrivacyOptions where
  mode : PrivacyMode := .standardPrivate
  /-- The messages that the new one affects. -/
  affected : List MessageHash := []
  execHash : Bytes := []
  mandatory : SortedSet PublicKey := .empty
  groupId : Option Bytes := none
deriving DecidableEq

/-- A request to send a message. -/
structure SendRequest where
  message : Bytes
  sender : PublicKey
  recipients : List PublicKey
  privacy : PrivacyOptions

/-- A request to send a raw message that was stored before. -/
structure SendSignedRequest where
  hash : MessageHash
  recipients : List PublicKey
  privacy : PrivacyOptions

/-- The answer to a request to send. -/
structure SendResponse where
  hash : MessageHash
  sender : PublicKey
  /-- The recipients whose keys are managed here. -/
  managedParties : SortedSet PublicKey
deriving DecidableEq

/-- A request for the message under a hash. -/
structure ReceiveRequest where
  hash : MessageHash
  /-- The key to open it with, if not the first one that fits. -/
  recipient : Option PublicKey := none
  /-- Whether a raw message is meant. -/
  raw : Bool := false

/-- The answer to a request for a message. -/
structure ReceiveResponse where
  message : Bytes
  sender : PublicKey
  mode : PrivacyMode
  execHash : Bytes
  affected : SortedSet MessageHash
  groupId : Option Bytes
  managedParties : SortedSet PublicKey
deriving DecidableEq

/-- A payload on its way to the recipients that are not managed here. -/
structure Publication where
  payload : Payload
  recipients : List PublicKey
deriving DecidableEq

/-- What a successful request to send leads to. -/
structure Sent where
  response : SendResponse
  vault : Vault
  publication : Publication

namespace Vault

/-- The recipients of a message: those asked for, the sender and, in standard mode, the forwarding
keys, each once. -/
def resolveRecipients (e : Enclave) (sender : PublicKey) (requested : List PublicKey)
    (mode : PrivacyMode) : List PublicKey :=
  Sorted.appendNew []
    (requested ++ sender :: if mode = .standardPrivate then e.forwarding.elems else [])

/-- The recipients and the metadata of a message that may be sent. -/
structure Prepared where
  recipients : List PublicKey
  metadata : Metadata
deriving DecidableEq

/-- Checks a request to send and works out its recipients and claims. -/
def prepare (v : Vault) (sender : PublicKey) (requested : List PublicKey)
    (options : PrivacyOptions) : Except TransactionError Prepared := do
  let recipients := resolveRecipients v.enclave sender requested options.mode
  let affected ← Privacy.findAffected v.messages options.affected
  Privacy.checkSend options.mode recipients options.mandatory affected
  let metadata ← (Metadata.checked
    { mode := options.mode
      affected := Privacy.securityHashes affected recipients
      execHash := options.execHash
      mandatory := options.mandatory
      groupId := options.groupId }).mapError fun e => .validation e.message
  .ok { recipients, metadata }

/-- Makes the payload of a message without keeping or sending it. -/
def create (v : Vault) (request : SendRequest) : Drawing TransactionError Payload := do
  let prepared ← Drawing.ofExcept (v.prepare request.sender request.recipients request.privacy)
  Drawing.mapError .enclave
    (v.enclave.encryptPayload request.message request.sender prepared.recipients prepared.metadata)

/-- Keeps a new payload and hands it on to the recipients that are not managed here. -/
def persist (v : Vault) (p : Payload) (recipients : List PublicKey) :
    Except TransactionError Sent := do
  let record ← (EncryptedTransaction.ofPayload p v.codec).mapError .codec
  let messages ← (v.messages.save record).mapError .storage
  .ok
    { response :=
        { hash := p.hash
          sender := p.sender
          managedParties := .ofList (recipients.filter v.enclave.manages) }
      vault := { v with messages }
      publication :=
        { payload := p, recipients := recipients.filter fun key => !v.enclave.manages key } }

/-- Sends a message. -/
def send (v : Vault) (request : SendRequest) : Drawing TransactionError Sent := do
  let prepared ← Drawing.ofExcept (v.prepare request.sender request.recipients request.privacy)
  let p ← Drawing.mapError .enclave
    (v.enclave.encryptPayload request.message request.sender prepared.recipients prepared.metadata)
  Drawing.ofExcept (v.persist p prepared.recipients)

/-- Sends a raw message that was stored before. -/
def sendSigned (v : Vault) (request : SendSignedRequest) : Drawing TransactionError Sent := do
  let found ← Drawing.ofExcept ((v.raws.retrieve request.hash).mapError .storage)
  match found with
  | none => Drawing.ofExcept (.error (.rawNotFound request.hash))
  | some record => do
    let prepared ← Drawing.ofExcept (v.prepare record.sender request.recipients request.privacy)
    let p ← Drawing.mapError .enclave
      (v.enclave.encryptRawPayload record.toRaw prepared.recipients prepared.metadata)
    Drawing.ofExcept (v.persist p prepared.recipients)

/-- Stores a message to be sent later. -/
def storeRaw (v : Vault) (message : Bytes) (sender : Option PublicKey) :
    Drawing TransactionError (MessageHash × Vault) := do
  let raw ← Drawing.mapError .enclave
    (v.enclave.encryptRaw message (sender.getD v.enclave.defaultKey))
  let record := EncryptedRawTransaction.ofRaw raw
  let raws ← Drawing.ofExcept ((v.raws.save record).mapError .storage)
  pure (record.hash, { v with raws })

/-- The stored payload under a hash. -/
def loadPayload (v : Vault) (hash : MessageHash) : Except TransactionError Payload := do
  match ← (v.messages.retrieve hash).mapError .storage with
  | some record => record.payload.mapError .codec
  | none => .error (.messageNotFound hash)

/-- Reads a raw message. -/
def receiveRaw (v : Vault) (hash : MessageHash) : Except TransactionError ReceiveResponse := do
  match ← (v.raws.retrieve hash).mapError .storage with
  | none => .error (.messageNotFound hash)
  | some record =>
    let message ← (v.enclave.decryptRaw record.toRaw).mapError .enclave
    .ok
      { message
        sender := record.sender
        mode := .standardPrivate
        execHash := []
        affected := .empty
        groupId := none
        managedParties := .ofList ([record.sender].filter v.enclave.manages) }

/-- Opens a payload with a key that was asked for, or with the first one that fits. -/
def openStored (v : Vault) (hash : MessageHash) (p : Payload) (recipient : Option PublicKey) :
    Except TransactionError (PublicKey × Bytes) :=
  match recipient with
  | some key =>
    match v.enclave.decryptWith p key with
    | .ok message => .ok (key, message)
    | .error _ => .error (.recipientKeyNotFound hash.toBase64)
  | none => v.enclave.searchDecrypt p

/-- Reads a message. -/
def receive (v : Vault) (request : ReceiveRequest) : Except TransactionError ReceiveResponse :=
  if request.raw then v.receiveRaw request.hash
  else do
    let p ← v.loadPayload request.hash
    let (key, message) ← v.openStored request.hash p request.recipient
    let affected ← v.enclave.visibleAffected v.messages p key
    .ok
      { message
        sender := p.sender
        mode := p.mode
        execHash := if p.mode = .privateStateValidation then p.execHash else []
        affected
        groupId := p.groupId
        managedParties := v.enclave.managedParties p }

/-- Forgets a message. -/
def delete (v : Vault) (hash : MessageHash) : Except TransactionError Vault := do
  let messages ← (v.messages.delete hash).mapError .storage
  .ok { v with messages }

/-- Tests whether a message was sent from here. -/
def isSender (v : Vault) (hash : MessageHash) : Except TransactionError Bool :=
  (v.loadPayload hash).map fun p => v.enclave.manages p.sender

/-- The recipients of a message. -/
def participants (v : Vault) (hash : MessageHash) : Except TransactionError (List PublicKey) :=
  (v.loadPayload hash).map (·.keys)

/-- The mandatory recipients of a message of the mode that has them. -/
def mandatoryRecipients (v : Vault) (hash : MessageHash) :
    Except TransactionError (SortedSet PublicKey) := do
  let p ← v.loadPayload hash
  if p.mode = .mandatoryRecipients then .ok p.mandatory
  else .error .mandatoryRecipientsNotAvailable

/-- Tests whether both stores are alive. -/
def isUp (v : Vault) : Bool := v.messages.live && v.raws.live

end Vault

end SealedExchange
