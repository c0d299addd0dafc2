import SealedExchange.Exchange.Vault
import SealedExchange.Exchange.Opening
import SealedExchange.Http.Response

/-! # Answers to requests about messages

The documents that answer requests, and the responses to requests that fail: the status tells
whose fault it is and the text is the wording of the error.
-/

namespace SealedExchange

namespace Api

open Json

/-- The array of some keys. -/
def keysDocument (keys : List PublicKey) : Value :=
  .array (keys.map fun key => .string key.toBase64)

/-- The array of some hashes. -/
def hashesDocument (hashes : List MessageHash) : Value :=
  .array (hashes.map fun hash => .string hash.toBase64)

/-- Byte strings are written as base64. -/
def bytesDocument (bytes : Bytes) : Value := .string (Base64.encode bytes)

/-- The answer to a request to send. -/
def sendDocument (r : SendResponse) : Value :=
  .object
    [("key", .string r.hash.toBase64),
      ("senderKey", .string r.sender.toBase64),
      ("managedParties", keysDocument r.managedParties.elems)]

/-- The answer to a request to store a message. -/
def storeRawDocument (hash : MessageHash) : Value := .object [("key", .string hash.toBase64)]

/-- The answer to a request for a message. -/
def receiveDocument (r : ReceiveResponse) : Value :=
  .object
    ([("payload", bytesDocument r.message),
      ("senderKey", .string r.sender.toBase64),
      ("privacyFlag", .nat r.mode.code),
      ("execHash", bytesDocument r.execHash),
      ("affectedContractTransactions", hashesDocument r.affected.elems)] ++
      (r.groupId.toList.map fun id => ("privacyGroupId", bytesDocument id)) ++
      [("managedParties", keysDocument r.managedParties.elems)])

/-- The answer to a request to open a payload. -/
def openedDocument (p : Payload) (o : Enclave.Opened) : Value :=
  .object
    [("payload", bytesDocument o.message),
      ("recipientKey", .string o.key.toBase64),
      ("privacyFlag", .nat p.mode.code),
      ("execHash", bytesDocument p.execHash),
      ("affectedContractTransactions", hashesDocument o.affected.elems)]

/-- The keys of a message with commas in between. -/
def keyList (keys : List PublicKey) : String := Text.join "," (keys.map PublicKey.toBase64)

end Api

namespace TransactionError

/-- The status of a response to a request that failed. -/
def status : TransactionError → Nat
  | validation _ | payload _ | codec _ | mandatoryRecipientsNotAvailable => 400
  | privacyViolation _ => 403
  | notFound _ | recipientKeyNotFound _ => 404
  | conflict _ => 409
  | enclave _ | storage _ => 500

/-- The response to a request that failed. -/
def response (e : TransactionError) : Http.Response := .text e.status e.message

end TransactionError

end SealedExchange
