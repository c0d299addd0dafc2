import SealedExchange.Enclave.Basic
import SealedExchange.Payload.Codec

/-! # What goes wrong between nodes

A post to another node fails because it cannot be made, because the node refuses it, or because no
answer comes in time. An announcement or a challenge is refused for reasons of its own.
-/

namespace SealedExchange

/-- Why a post has no answer. -/
inductive TransportError
  | request (url reason : String)
  | status (url : String) (code : Nat)
  | timeout (url : String)
deriving DecidableEq, Repr

/-- The wording of an error. -/
def TransportError.message : TransportError → String
  | request url reason => "Request to " ++ url ++ " failed: " ++ reason
  | status url code => "Peer " ++ url ++ " responded with status " ++ Text.decimal code
  | timeout url => "Request to " ++ url ++ " timed out"

/-- What comes back from a post. -/
abbrev Reply := Except TransportError Bytes

/-- Why an announcement or a challenge is refused. -/
inductive DiscoveryError
  | securityViolation (reason : String)
  | notAChallenge
  | noManagedRecipient
  | malformed (reason : String)
  | transport (reason : TransportError)
  | codec (reason : CodecError)
  | enclave (reason : EnclaveError)
deriving DecidableEq, Repr

/-- The wording of an error. -/
def DiscoveryError.message : DiscoveryError → String
  | securityViolation reason => "Security violation: " ++ reason
  | notAChallenge => "Received payload is not a validation challenge"
  | noManagedRecipient => "No managed key found among the challenge recipients"
  | malformed reason => "Malformed party info: " ++ reason
  | transport reason => "Transport error: " ++ reason.message
  | codec reason => "Codec error: " ++ reason.message
  | enclave reason => "Enclave error: " ++ reason.message

end SealedExchange
