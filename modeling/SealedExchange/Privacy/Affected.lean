import SealedExchange.Privacy.Rules

/-! # Looking up affected messages

References to messages are resolved against the records of a store. A sender's references to
unknown messages are dropped; a delivered payload's claims about unknown messages are passed over,
except in private state validation, where every one of them must be known.
-/

namespace SealedExchange.Privacy

/-- The payloads of records, each under its record's hash. -/
def decodeAll : List EncryptedTransaction →
    Except TransactionError (List (MessageHash × Payload))
  | [] => .ok []
  | record :: rest => do
    let payload ← record.payload.mapError .codec
    let more ← decodeAll rest
    .ok ((record.hash, payload) :: more)

/-- The payloads of those messages that are stored. -/
def load (store : Store EncryptedTransaction) (hashes : List MessageHash) :
    Except TransactionError (SortedMap MessageHash Payload) := do
  let records ← (store.find hashes).mapError .storage
  let payloads ← decodeAll records
  .ok (.ofList payloads)

/-- The stored ones among some messages, in order and with repeats. -/
def findAffected (store : Store EncryptedTransaction) (refs : List MessageHash) :
    Except TransactionError (List AffectedTransaction) := do
  let found ← load store refs
  .ok (refs.filterMap fun hash => (found.get? hash).map fun payload => { hash, payload })

/-- The security hashes of the stored ones among some messages. -/
def resolveRefs (store : Store EncryptedTransaction) (refs : List MessageHash)
    (recipients : List PublicKey) : Except TransactionError (SortedMap MessageHash SecurityHash) :=
  (findAffected store refs).map fun affected => securityHashes affected recipients

/-- The messages that a payload claims to affect, as far as they are known. -/
def resolveClaims (store : Store EncryptedTransaction) (p : Payload) :
    Except TransactionError (List AffectedTransaction) :=
  if p.affected.isEmpty then .ok []
  else do
    let refs := p.affected.keys
    let found ← load store refs
    match refs.find? fun hash => !found.contains hash with
    | some hash =>
      if p.mode = .privateStateValidation then
        .error (.privacyViolation ("Unable to find affected transaction " ++ hash.toBase64))
      else
        .ok (refs.filterMap fun hash => (found.get? hash).map fun payload => { hash, payload })
    | none =>
      .ok (refs.filterMap fun hash => (found.get? hash).map fun payload => { hash, payload })

end SealedExchange.Privacy
