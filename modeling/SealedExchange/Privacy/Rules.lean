import SealedExchange.Exchange.Error

/-! # Privacy rules

What a message may do with the messages it affects. `checkSend` states when a request to send is
allowed, `admits` when a delivered payload is taken in, and `sanitise` what becomes of claims whose
security hash is wrong.
-/

namespace SealedExchange.Privacy

/-- The security hashes that a message for some recipients claims about affected messages. -/
def securityHashes (affected : List AffectedTransaction) (recipients : List PublicKey) :
    SortedMap MessageHash SecurityHash :=
  .ofList (affected.map fun tx =>
    (tx.hash, Enclave.sharedSecurityHash (.ofList recipients) tx.payload))

/-- Mandatory recipients go with one mode, where there is at least one and all are recipients. -/
def checkMandatory (mode : PrivacyMode) (recipients : List PublicKey)
    (mandatory : SortedSet PublicKey) : Except TransactionError Unit :=
  if mode = .mandatoryRecipients then
    if mandatory.isEmpty then .error (.validation "Missing mandatory recipients data")
    else if mandatory.elems.all (· ∈ recipients) then .ok ()
    else .error (.validation
      "One or more mandatory recipients not included in the participant list")
  else if mandatory.isEmpty then .ok ()
  else .error (.validation
    "Mandatory recipients data only applicable for MANDATORY_RECIPIENTS privacy mode")

/-- In private state validation every affected message has the same recipients. -/
def checkSameRecipients (recipients : List PublicKey) (affected : List AffectedTransaction) :
    Except TransactionError Unit :=
  match affected.find? fun tx => tx.payload.keySet ≠ .ofList recipients with
  | some tx => .error (.validation
      ("Recipients mismatched for affected transaction " ++ tx.hash.toBase64))
  | none => .ok ()

/-- Nobody who is mandatory for an affected message may be left out. -/
def checkKeptMandatory (mandatory : SortedSet PublicKey) (affected : List AffectedTransaction) :
    Except TransactionError Unit :=
  match affected.find? fun tx => !tx.payload.mandatory.isSubset mandatory with
  | some tx => .error (.validation
      ("Mandatory recipients of affected transaction " ++ tx.hash.toBase64 ++ " not included"))
  | none => .ok ()

/-- When a message may be sent: its mandatory recipients are in order, the messages it affects are
of its own mode, and what that mode asks of them holds. -/
def checkSend (mode : PrivacyMode) (recipients : List PublicKey) (mandatory : SortedSet PublicKey)
    (affected : List AffectedTransaction) : Except TransactionError Unit := do
  checkMandatory mode recipients mandatory
  if affected.any fun tx => tx.payload.mode ≠ mode then
    .error (.validation "Privacy metadata mismatched with affected transactions")
  else if mode = .privateStateValidation then checkSameRecipients recipients affected
  else if mode = .mandatoryRecipients then checkKeptMandatory mandatory affected
  else .ok ()

/-- When a delivered payload is taken in: always in standard mode, and otherwise if the affected
messages are of its mode and have its sender among their recipients. -/
def admits (p : Payload) (affected : List AffectedTransaction) : Bool :=
  p.mode = .standardPrivate ||
    (affected.all fun tx => tx.payload.mode = p.mode) &&
      affected.all fun tx => p.sender ∈ tx.payload.keys

/-- Hashes with a comma in between. -/
def joinHashes (hashes : SortedSet MessageHash) : String :=
  Text.join "," (hashes.elems.map MessageHash.toBase64)

/-- Removes claims with a wrong security hash, which private state validation does not forgive. -/
def sanitise (hash : MessageHash) (p : Payload) (invalid : SortedSet MessageHash) :
    Except TransactionError Payload :=
  if invalid.isEmpty then .ok p
  else if p.mode = .privateStateValidation then
    .error (.privacyViolation ("Invalid security hashes identified for PSC TX " ++ hash.toBase64 ++
      ". Invalid ACOTHs: " ++ joinHashes invalid))
  else .ok (p.withoutAffected invalid)

end SealedExchange.Privacy
