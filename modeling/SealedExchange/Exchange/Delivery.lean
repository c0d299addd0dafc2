import SealedExchange.Exchange.Vault

/-! # Taking in delivered payloads

A payload that another node delivers passes three stages: its claims about affected messages are
resolved and checked, what is already stored under its hash is looked up, and the two are brought
together in a change of the store. Reading and deciding are kept apart, so that the stages of
several deliveries can be interleaved.
-/

namespace SealedExchange

/-- A change of a store of messages. -/
inductive StoreChange
  | keep
  | save (record : EncryptedTransaction)
  | update (record : EncryptedTransaction)
deriving DecidableEq

/-- Carries out a change. -/
def StoreChange.apply (change : StoreChange) (store : Store EncryptedTransaction) :
    Except StorageError (Store EncryptedTransaction) :=
  match change with
  | keep => .ok store
  | save record => store.save record
  | update record => store.update record

namespace Vault

/-- What a payload's own sender checks when it comes back: it must open, with its first key or, if
it lists none, with any. -/
def checkOwn (e : Enclave) (p : Payload) : Except TransactionError Unit :=
  if e.manages p.sender then
    match p.keys.head? with
    | some key => (e.decrypt p key).mapError .enclave |>.map fun _ => ()
    | none => (e.searchDecrypt p).map fun _ => ()
  else .ok ()

/-- Decides about a payload, given the affected messages that are known: nothing if it is to be
ignored, otherwise the payload to be stored, which may have lost claims. -/
def screen (e : Enclave) (p : Payload) (affected : List AffectedTransaction) :
    Except TransactionError (Option Payload) := do
  -- Claims that are stripped here still count in the admission below.
  let invalid := Enclave.invalidSecurityHashes p affected
  let p ← Privacy.sanitise p.hash p invalid
  if Privacy.admits p affected then do
    checkOwn e p
    .ok (some p)
  else .ok none

/-- Brings a payload together with the one that is stored under its hash. A payload of private
state validation may not leave out a recipient that the stored one has. -/
def mergeInto (hash : MessageHash) (codec : Codec) (existing incoming : Payload) :
    Except TransactionError StoreChange := do
  if existing.cipherText ≠ incoming.cipherText then
    .error (.conflict "Invalid existing transaction")
  else if (existing.mode = .privateStateValidation ∨ incoming.mode = .privateStateValidation) ∧
      existing.keys.any (· ∉ incoming.keys) then
    .error (.validation "expected recipient not found")
  else
    match ← (existing.merge incoming).mapError .payload with
    | none => .ok .keep
    | some merged => do
      let encodedPayload ← (codec.encode merged).mapError .codec
      .ok (.update { hash, encodedPayload, codec })

/-- The change that a payload leads to, given what is stored under its hash. -/
def changeFor (codec : Codec) (p : Payload) (stored : Option EncryptedTransaction) :
    Except TransactionError StoreChange :=
  match stored with
  | none => ((EncryptedTransaction.ofPayload p codec).mapError .codec).map .save
  | some record => do
    let existing ← record.payload.mapError .codec
    mergeInto p.hash record.codec existing p

/-- Takes in a delivered payload. -/
def storePayload (v : Vault) (p : Payload) : Except TransactionError (MessageHash × Vault) := do
  let affected ← Privacy.resolveClaims v.messages p
  match ← screen v.enclave p affected with
  | none => .ok (p.hash, v)
  | some p => do
    let stored ← (v.messages.retrieve p.hash).mapError .storage
    let change ← changeFor v.codec p stored
    let messages ← (change.apply v.messages).mapError .storage
    .ok (p.hash, { v with messages })

/-- Takes in delivered payloads one after the other. -/
def storeMany (v : Vault) : List Payload → List (Except TransactionError MessageHash) × Vault
  | [] => ([], v)
  | p :: rest =>
    match v.storePayload p with
    | .ok (hash, v) =>
      let (results, v) := v.storeMany rest
      (.ok hash :: results, v)
    | .error e =>
      let (results, v) := v.storeMany rest
      (.error e :: results, v)

end Vault

end SealedExchange
