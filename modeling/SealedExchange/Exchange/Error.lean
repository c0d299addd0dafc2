import SealedExchange.Enclave.Basic
import SealedExchange.Store.Basic

/-! # Why a request about messages is refused

Each error carries what a person needs to see; the layers below keep their own errors inside.
-/

namespace SealedExchange

/-- Why a request about messages is refused. -/
inductive TransactionError
  | validation (reason : String)
  | conflict (reason : String)
  | privacyViolation (reason : String)
  | notFound (what : String)
  | recipientKeyNotFound (hash : String)
  | mandatoryRecipientsNotAvailable
  | enclave (reason : EnclaveError)
  | storage (reason : StorageError)
  | codec (reason : CodecError)
  | payload (reason : PayloadError)
deriving DecidableEq, Repr

namespace TransactionError

/-- The wording of an error. -/
def message : TransactionError → String
  | validation reason => "Validation failed: " ++ reason
  | conflict reason => "Conflict: " ++ reason
  | privacyViolation reason => "Privacy violation: " ++ reason
  | notFound what => what
  | recipientKeyNotFound hash =>
    "No suitable recipient keys found to decrypt payload for " ++ hash
  | mandatoryRecipientsNotAvailable =>
    "Operation invalid. Transaction found is not a mandatory recipients privacy type"
  | enclave reason => "Enclave error: " ++ reason.message
  | storage reason => "Storage error: " ++ reason.message
  | codec reason => "Codec error: " ++ reason.message
  | payload reason => "Invalid payload: " ++ reason.message

/-- There is no message under a hash. -/
def messageNotFound (hash : MessageHash) : TransactionError :=
  notFound ("Message with hash " ++ hash.toBase64 ++ " was not found")

/-- There is no raw message under a hash. -/
def rawNotFound (hash : MessageHash) : TransactionError :=
  notFound ("Raw message with hash " ++ hash.toBase64 ++ " was not found")

end TransactionError

end SealedExchange
