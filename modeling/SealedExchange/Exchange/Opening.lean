import SealedExchange.Privacy.Affected

/-! # Opening payloads

Which of its keys an enclave tries on a payload, and in which order. In a legacy payload any box
may be anybody's, so a key is tried on every box.
-/

namespace SealedExchange

namespace Enclave

/-- The managed keys that may open a payload: the listed ones and, for a legacy payload, all of
them, with the sender first. -/
def candidateKeys (e : Enclave) (p : Payload) : List PublicKey :=
  if p.isLegacy then
    (e.managedKeys.filter (· = p.sender)) ++ e.managedKeys.filter (· ≠ p.sender)
  else e.managedKeys.filter (· ∈ p.keys)

/-- Opens a payload with a key and the first of some boxes that fits. The error is that of the
last box. -/
def decryptAny (e : Enclave) (p : Payload) (key : PublicKey) (last : EnclaveError) :
    List Bytes → Except EnclaveError Bytes
  | [] => .error last
  | box :: rest =>
    match e.decrypt (p.withBox box) key with
    | .ok message => .ok message
    | .error reason => e.decryptAny p key reason rest

/-- Opens a payload with a key; a legacy payload of several boxes with whichever box fits. -/
def decryptWith (e : Enclave) (p : Payload) (key : PublicKey) : Except EnclaveError Bytes :=
  if p.isLegacy ∧ 1 < p.boxes.length then
    e.decryptAny p key (.missingRecipientBox key.toBase64) p.boxes
  else e.decrypt p key

/-- Tests whether a key opens a payload. -/
def opens (e : Enclave) (p : Payload) (key : PublicKey) : Bool :=
  (e.decryptWith p key).toOption.isSome

/-- The first of some keys that opens a payload, with the message. -/
def firstOpening (e : Enclave) (p : Payload) : List PublicKey → Option (PublicKey × Bytes)
  | [] => none
  | key :: rest =>
    match e.decryptWith p key with
    | .ok message => some (key, message)
    | .error _ => e.firstOpening p rest

/-- Opens a payload with the first candidate key that does. -/
def searchDecrypt (e : Enclave) (p : Payload) : Except TransactionError (PublicKey × Bytes) :=
  match e.firstOpening p (e.candidateKeys p) with
  | some found => .ok found
  | none => .error (.recipientKeyNotFound p.hash.toBase64)

/-- The managed keys that open a legacy payload. -/
def legacyParties (e : Enclave) (p : Payload) : SortedSet PublicKey :=
  .ofList ((e.candidateKeys p).filter (e.opens p))

/-- The managed keys that a payload belongs to. -/
def managedParties (e : Enclave) (p : Payload) : SortedSet PublicKey :=
  if p.isLegacy then e.legacyParties p else .ofList (p.keys.filter e.manages)

/-- The affected messages of a payload that are stored and can be opened, by a preferred key or by
any other. -/
def visibleAffected (e : Enclave) (store : Store EncryptedTransaction) (p : Payload)
    (preferred : PublicKey) : Except TransactionError (SortedSet MessageHash) :=
  if p.affected.isEmpty then .ok .empty
  else do
    let known ← Privacy.findAffected store p.affected.keys
    .ok (.ofList ((known.filter fun tx =>
      e.opens tx.payload preferred || (e.searchDecrypt tx.payload).toOption.isSome).map (·.hash)))

/-- An opened payload: the message, the key that opened it, and the affected messages that can be
opened too. -/
structure Opened where
  message : Bytes
  key : PublicKey
  affected : SortedSet MessageHash

/-- Opens a payload with a given key or with the first one that fits. -/
def openPayload (e : Enclave) (store : Store EncryptedTransaction) (p : Payload)
    (recipient : Option PublicKey) : Except TransactionError Opened := do
  let (key, message) ← match recipient with
    | some key => do
      let message ← (e.decryptWith p key).mapError .enclave
      .ok (key, message)
    | none => e.searchDecrypt p
  let affected ← e.visibleAffected store p key
  .ok { message, key, affected }

end Enclave

end SealedExchange
