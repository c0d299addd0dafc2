import SealedExchange.Api.Privacy

/-! # Request bodies

The bodies of the requests to send and to store messages. A body is read as JSON first; what its
fields mean is checked afterwards.
-/

namespace SealedExchange.Api

open Json

/-- A request to store a message that is to be sent later. -/
structure StoreRawRequest where
  message : Bytes
  /-- The sender, if not the default key. -/
  sender : Option PublicKey := none
deriving DecidableEq

/-- Reads a body as a whole. -/
def readBody (reader : Reader α) (body : Bytes) : Except TransactionError α :=
  (Reader.run reader body).mapError fun e => .validation ("Invalid request body: " ++ e.message)

/-- The levels of lists and objects that may stand inside the object of a body. -/
def levels : Nat := 126

/-- Reads a member that is not looked at yet. -/
def otherMember (others : List (String × Value)) (name : String) :
    Reader (List (String × Value)) := do
  Reader.colon
  let v ← Reader.value levels
  pure (others ++ [(name, v)])

/-- The privacy fields among some members. -/
def privacyOf (others : List (String × Value)) : Reader PrivacyBody :=
  match PrivacyBody.ofMembers others with
  | .ok b => pure b
  | .error e => Reader.refuse e

/-- Reads an object; a list will not do. -/
def objectOnly (expected : String) (body : Reader α) : Reader α := do
  match ← Reader.peek with
  | some 0x7b => Reader.inObject body
  | _ => Reader.unexpected expected

/-- The body of a request to send a message. -/
structure SendBody where
  payload : String
  sender : Option String := none
  recipients : List String := []
  privacy : PrivacyBody := {}
deriving DecidableEq

namespace SendBody

/-- The fields as far as they have been read, and the other members. -/
structure Partial where
  payload : Option String := none
  sender : Option (Option String) := none
  recipients : Option (List String) := none
  others : List (String × Value) := []

/-- Reads the member with a given name. -/
def member (p : Partial) (name : String) : Reader Partial := do
  match name with
  | "payload" => do
    let payload ← Reader.once name p.payload PrivacyBody.text
    pure { p with payload }
  | "from" => do
    let sender ← Reader.once name p.sender (Reader.option PrivacyBody.text)
    pure { p with sender }
  | "to" => do
    let recipients ← Reader.once name p.recipients PrivacyBody.texts
    pure { p with recipients }
  | _ => do
    let others ← otherMember p.others name
    pure { p with others }

/-- Reads a body. -/
def reader : Reader SendBody := objectOnly "struct SendJson" do
  let p ← Reader.bounded fun fuel => Reader.members member fuel true ({} : Partial)
  let payload ← Reader.required "payload" p.payload
  let privacy ← privacyOf p.others
  pure { payload, sender := p.sender.join, recipients := p.recipients.getD [], privacy }

/-- The document that says the same. -/
def document (b : SendBody) : Value :=
  .object
    (("payload", .string b.payload) :: PrivacyBody.optionalMember "from" b.sender ++
      ("to", PrivacyBody.textsDocument b.recipients) :: b.privacy.document)

/-- The request that a body stands for. -/
def request (b : SendBody) (defaultSender : PublicKey) : Except TransactionError SendRequest := do
  let sender ← match b.sender with
    | some text => readKey text
    | none => .ok defaultSender
  let recipients ← readKeys b.recipients
  let privacy ← b.privacy.options
  let message ← readBytes "payload" b.payload
  .ok { message, sender, recipients, privacy }

end SendBody

/-- The body of a request to send a message that was stored before. -/
structure SendSignedBody where
  hash : String
  recipients : List String := []
  privacy : PrivacyBody := {}
deriving DecidableEq

namespace SendSignedBody

/-- The fields as far as they have been read, and the other members. -/
structure Partial where
  hash : Option String := none
  recipients : Option (List String) := none
  others : List (String × Value) := []

/-- Reads the member with a given name. -/
def member (p : Partial) (name : String) : Reader Partial := do
  match name with
  | "hash" => do
    let hash ← Reader.once name p.hash PrivacyBody.text
    pure { p with hash }
  | "to" => do
    let recipients ← Reader.once name p.recipients PrivacyBody.texts
    pure { p with recipients }
  | _ => do
    let others ← otherMember p.others name
    pure { p with others }

/-- Reads a body. -/
def reader : Reader SendSignedBody := objectOnly "struct SendSignedJson" do
  let p ← Reader.bounded fun fuel => Reader.members member fuel true ({} : Partial)
  let hash ← Reader.required "hash" p.hash
  let privacy ← privacyOf p.others
  pure { hash, recipients := p.recipients.getD [], privacy }

/-- The request that a body stands for. -/
def request (b : SendSignedBody) : Except TransactionError SendSignedRequest := do
  let hash ← readHash b.hash
  let recipients ← readKeys b.recipients
  let privacy ← b.privacy.options
  .ok { hash, recipients, privacy }

end SendSignedBody

/-- The body of a request to store a message. -/
structure StoreRawBody where
  payload : String
  sender : Option String := none
deriving DecidableEq

namespace StoreRawBody

/-- The fields as far as they have been read. -/
structure Partial where
  payload : Option String := none
  sender : Option (Option String) := none

/-- The name of what is read, in errors. -/
def expected : String := "struct StoreRawJson"

/-- Reads the member with a given name. -/
def member (p : Partial) (name : String) : Reader Partial := do
  match name with
  | "payload" => do
    let payload ← Reader.once name p.payload PrivacyBody.text
    pure { p with payload }
  | "from" => do
    let sender ← Reader.once name p.sender (Reader.option PrivacyBody.text)
    pure { p with sender }
  | _ => do
    Reader.skipMember
    pure p

/-- Reads the members of an object. -/
def object : Reader StoreRawBody := do
  let p ← Reader.bounded fun fuel => Reader.members member fuel true ({} : Partial)
  let payload ← Reader.required "payload" p.payload
  pure { payload, sender := p.sender.join }

/-- Reads the fields of a list, of which the second may be missing. -/
def fields : Reader StoreRawBody := do
  let payload ← Reader.itemAt 0 (expected ++ " with 2 elements") PrivacyBody.text
  let sender ← Reader.itemOr 1 none (Reader.option PrivacyBody.text)
  pure { payload, sender }

/-- Reads a body. -/
def reader : Reader StoreRawBody := Reader.record expected fields object

/-- The request that a body stands for. -/
def request (b : StoreRawBody) : Except TransactionError StoreRawRequest := do
  let message ← readBytes "payload" b.payload
  let sender ← match b.sender with
    | some text => (readKey text).map some
    | none => .ok none
  .ok { message, sender }

end StoreRawBody

end SealedExchange.Api
