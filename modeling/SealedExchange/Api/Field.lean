import SealedExchange.Exchange.Vault
import SealedExchange.Text.Percent

/-! # Fields of requests

Keys, hashes and byte strings travel as base64, in paths and queries also percent-encoded. What
cannot be read makes the request invalid.
-/

namespace SealedExchange.Api

/-- Reads a key. -/
def readKey (text : String) : Except TransactionError PublicKey :=
  (PublicKey.ofBase64 text).mapError fun e =>
    .validation ("Invalid key " ++ text ++ ": " ++ e.reason)

/-- Reads keys. -/
def readKeys (texts : List String) : Except TransactionError (List PublicKey) :=
  texts.mapM readKey

/-- Reads the hash of a message, which is not empty. -/
def readHash (text : String) : Except TransactionError MessageHash :=
  match MessageHash.ofBase64 text with
  | .ok hash => if hash.bytes.isEmpty then .error (.validation "Empty hash") else .ok hash
  | .error e => .error (.validation ("Invalid hash " ++ text ++ ": " ++ e.message))

/-- Reads the byte string of a field. -/
def readBytes (field text : String) : Except TransactionError Bytes :=
  (Base64.decode (Text.trim text)).mapError fun e =>
    .validation ("Invalid base64 in " ++ field ++ ": " ++ e.message)

/-- Reads percent-encoded text. A plus sign stands for itself. -/
def readPercent (text : String) : Except TransactionError String :=
  (Text.Percent.decode text).mapError fun e =>
    .validation ("Invalid percent-encoding: " ++ e.message)

/-- A parameter of a query: its name and its value, which is empty if there is no equals sign. -/
def parameter (pair : String) : String × String := (Text.splitOnce '=' pair).getD (pair, "")

/-- The first value of a parameter of a query. -/
def queryParameter (query name : String) : Except TransactionError (Option String) :=
  match (((Text.split '&' query).filter (· ≠ "")).map parameter).find? (·.1 = name) with
  | some (_, value) => (readPercent value).map some
  | none => .ok none

/-- The key that a query names, if it names one. -/
def queryKey (query name : String) : Except TransactionError (Option PublicKey) := do
  match ← queryParameter query name with
  | some text => (readKey text).map some
  | none => .ok none

end SealedExchange.Api
