import SealedExchange.Json.Reader
import SealedExchange.Payload.Basic

/-! # Payloads as JSON

A payload is an object with one member for each field; byte strings are arrays of numbers. Since
the names of an object are strings and hashes are not, claims about affected messages have no JSON
form. Reading also accepts the fields in any order, members with other names, and a list of the
fields in their usual order.
-/

namespace SealedExchange

open Json

namespace Payload.Json

/-- The fields of a payload as far as they have been read. -/
structure Partial where
  sender : Option PublicKey := none
  cipherText : Option Bytes := none
  nonce : Option Bytes := none
  boxes : Option (List Bytes) := none
  recipientNonce : Option Bytes := none
  keys : Option (List PublicKey) := none
  mode : Option PrivacyMode := none
  affected : Option (SortedMap MessageHash SecurityHash) := none
  execHash : Option Bytes := none
  mandatory : Option (SortedSet PublicKey) := none
  groupId : Option (Option Bytes) := none

/-- The name of what is read, in errors. -/
def expected : String := "struct EncodedPayload"

/-- Reads a byte string. -/
def bytes : Reader Bytes := Reader.list Reader.byte

/-- Reads a public key. -/
def key : Reader PublicKey := do
  let bs ← Reader.exactly keyLength Reader.byte
  if h : bs.length = keyLength then pure ⟨bs, h⟩
  else Reader.refuse (.invalidLength bs.length "an array of length 32")

/-- Reads a set of keys. -/
def keySet : Reader (SortedSet PublicKey) := do
  let keys ← Reader.list key
  pure (.ofList keys)

/-- The names of the privacy modes. -/
def modeNames : List String := PrivacyMode.all.map PrivacyMode.name

/-- The mode with a name. -/
def modeOfName (name : String) : Reader PrivacyMode :=
  match PrivacyMode.ofName? name with
  | some mode => pure mode
  | none => Reader.fail (.unknownVariant name modeNames)

/-- Reads a privacy mode: its name, or an object that maps its name to nothing. -/
def mode : Reader PrivacyMode := do
  match ← Reader.peek with
  | none => Reader.fail (.endOfInput .value)
  | some b =>
    if b = 0x22 then do
      Reader.advance
      let name ← Reader.stringBody
      modeOfName name
    else if b = 0x7b then do
      Reader.advance
      let name ← Reader.text "variant identifier"
      let mode ← modeOfName name
      Reader.colon
      match ← Reader.peek with
      | some 0x6e => do Reader.advance; Reader.literal (ascii "ull")
      | _ => Reader.unexpected "unit"
      match ← Reader.peek with
      | none => Reader.fail (.endOfInput .object)
      | some c => if c = 0x7d then do Reader.advance; pure mode else Reader.fail .expectedValue
    else Reader.failNext .expectedValue

/-- Reads claims about affected messages, of which there can be none: the name of a member is a
string where a list of numbers is expected. -/
def affected : Reader (SortedMap MessageHash SecurityHash) := do
  match ← Reader.peek with
  | some 0x7b => Reader.inObject do
    -- Any name at all is one too many.
    match ← Reader.nextName true with
    | none => pure .empty
    | some name => Reader.refuse (.invalidType (.text name) "a sequence")
  | _ => Reader.unexpected "a map"

/-- Reads the member with a given name. -/
def member (p : Partial) (name : String) : Reader Partial := do
  match name with
  | "sender_key" => do
    let sender ← Reader.once name p.sender key
    pure { p with sender }
  | "cipher_text" => do
    let cipherText ← Reader.once name p.cipherText bytes
    pure { p with cipherText }
  | "cipher_text_nonce" => do
    let nonce ← Reader.once name p.nonce bytes
    pure { p with nonce }
  | "recipient_boxes" => do
    let boxes ← Reader.once name p.boxes (Reader.list bytes)
    pure { p with boxes }
  | "recipient_nonce" => do
    let recipientNonce ← Reader.once name p.recipientNonce bytes
    pure { p with recipientNonce }
  | "recipient_keys" => do
    let keys ← Reader.once name p.keys (Reader.list key)
    pure { p with keys }
  | "privacy_mode" => do
    let mode ← Reader.once name p.mode mode
    pure { p with mode }
  | "affected_contract_transactions" => do
    let affected ← Reader.once name p.affected affected
    pure { p with affected }
  | "exec_hash" => do
    let execHash ← Reader.once name p.execHash bytes
    pure { p with execHash }
  | "mandatory_recipients" => do
    let mandatory ← Reader.once name p.mandatory keySet
    pure { p with mandatory }
  | "privacy_group_id" => do
    let groupId ← Reader.once name p.groupId (Reader.option bytes)
    pure { p with groupId }
  | _ => do
    Reader.skipMember
    pure p

/-- The payload of the members that were read; only the group may be missing. -/
def complete (p : Partial) : Reader Payload := do
  let sender ← Reader.required "sender_key" p.sender
  let cipherText ← Reader.required "cipher_text" p.cipherText
  let nonce ← Reader.required "cipher_text_nonce" p.nonce
  let boxes ← Reader.required "recipient_boxes" p.boxes
  let recipientNonce ← Reader.required "recipient_nonce" p.recipientNonce
  let keys ← Reader.required "recipient_keys" p.keys
  let mode ← Reader.required "privacy_mode" p.mode
  let affected ← Reader.required "affected_contract_transactions" p.affected
  let execHash ← Reader.required "exec_hash" p.execHash
  let mandatory ← Reader.required "mandatory_recipients" p.mandatory
  pure
    { sender, cipherText, nonce, boxes, recipientNonce, keys, mode, affected, execHash, mandatory
      groupId := p.groupId.join }

/-- Reads the members of an object. -/
def object : Reader Payload := do
  let p ← Reader.bounded fun fuel => Reader.members member fuel true ({} : Partial)
  complete p

/-- Reads the fields of a list. -/
def fields : Reader Payload := do
  let fieldAt {α : Type} (place : Nat) (item : Reader α) : Reader α :=
    Reader.itemAt place (expected ++ " with 11 elements") item
  let sender ← fieldAt 0 key
  let cipherText ← fieldAt 1 bytes
  let nonce ← fieldAt 2 bytes
  let boxes ← fieldAt 3 (Reader.list bytes)
  let recipientNonce ← fieldAt 4 bytes
  let keys ← fieldAt 5 (Reader.list key)
  let mode ← fieldAt 6 mode
  let affected ← fieldAt 7 affected
  let execHash ← fieldAt 8 bytes
  let mandatory ← fieldAt 9 keySet
  let groupId ← fieldAt 10 (Reader.option bytes)
  pure
    { sender, cipherText, nonce, boxes, recipientNonce, keys, mode, affected, execHash, mandatory
      groupId }

/-- Reads a payload. -/
def reader : Reader Payload := Reader.record expected fields object

/-- The document of a payload without claims about affected messages. -/
def document (p : Payload) : Value :=
  .object
    [("sender_key", .bytes p.sender.bytes),
      ("cipher_text", .bytes p.cipherText),
      ("cipher_text_nonce", .bytes p.nonce),
      ("recipient_boxes", .array (p.boxes.map Value.bytes)),
      ("recipient_nonce", .bytes p.recipientNonce),
      ("recipient_keys", .array (p.keys.map fun k => .bytes k.bytes)),
      ("privacy_mode", .string p.mode.name),
      ("affected_contract_transactions", .object []),
      ("exec_hash", .bytes p.execHash),
      ("mandatory_recipients", .array (p.mandatory.elems.map fun k => .bytes k.bytes)),
      ("privacy_group_id", .option .bytes p.groupId)]

/-- Writes a payload, if it claims nothing about affected messages. -/
def encode (p : Payload) : Except Json.Error Bytes :=
  if p.affected.isEmpty then .ok (document p).render else .error .keyNotString

end Payload.Json

end SealedExchange
