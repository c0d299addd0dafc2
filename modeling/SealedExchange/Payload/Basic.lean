import SealedExchange.Identity.Hash
import SealedExchange.Payload.Mode
import SealedExchange.Sorted.Distinct
import SealedExchange.Sorted.Map

/-! # Sealed payloads

A payload is a message in sealed form: the ciphertext, and for each recipient a box that holds the
message's key. The `i`-th box belongs to the `i`-th listed key; a payload that lists no keys at
all is a legacy payload, whose boxes belong to nobody in particular. `check` states when a payload
is well formed.
-/

namespace SealedExchange

/-- What a payload says about privacy besides its recipients. -/
structure Metadata where
  mode : PrivacyMode := .standardPrivate
  /-- The messages that this one affects, with the security hash claimed for each. -/
  affected : SortedMap MessageHash SecurityHash := .empty
  /-- The hash of the execution that the message belongs to. -/
  execHash : Bytes := []
  /-- The recipients that later messages may not leave out. -/
  mandatory : SortedSet PublicKey := .empty
  groupId : Option Bytes := none
deriving DecidableEq

/-- A sealed message. -/
structure Payload extends Metadata where
  sender : PublicKey
  cipherText : Bytes
  /-- The nonce that the ciphertext was sealed with. -/
  nonce : Bytes
  /-- The sealed message key, once for each recipient. -/
  boxes : List Bytes
  /-- The nonce that the boxes were sealed with. -/
  recipientNonce : Bytes
  keys : List PublicKey
deriving DecidableEq

/-- What is wrong with a payload. -/
inductive PayloadError
  | missingField (name : String)
  | boxKeyMismatch (boxes keys : Nat)
  | mandatoryNotRecipient
  | unexpectedMandatoryRecipients
  | missingExecHash
deriving DecidableEq, Repr

/-- The wording of an error. -/
def PayloadError.message : PayloadError → String
  | .missingField name => "missing required field: " ++ name
  | .boxKeyMismatch boxes keys =>
    Text.decimal boxes ++ " recipient boxes for " ++ Text.decimal keys ++ " recipient keys"
  | .mandatoryNotRecipient => "mandatory recipients must be a subset of the recipient keys"
  | .unexpectedMandatoryRecipients =>
    "mandatory recipients are only allowed for MANDATORY_RECIPIENTS"
  | .missingExecHash => "execution hash is required for PRIVATE_STATE_VALIDATION"

/-- Metadata that may go into a payload: private state validation needs an execution hash. -/
def Metadata.checked (m : Metadata) : Except PayloadError Metadata :=
  if m.mode = .privateStateValidation ∧ m.execHash = [] then .error .missingExecHash else .ok m

namespace Payload

/-- The hash that names the payload's message. -/
def hash (p : Payload) : MessageHash := .ofCipherText p.cipherText

/-- Tests whether the payload lists no keys. -/
def isLegacy (p : Payload) : Bool := p.keys.isEmpty

/-- The set of the listed keys. -/
def keySet (p : Payload) : SortedSet PublicKey := .ofList p.keys

/-- The keys that have a box, each with its box. -/
def boxed (p : Payload) : List (PublicKey × Bytes) := p.keys.zip p.boxes

/-- The box of a key: that of its first place in the list. -/
def boxFor? (p : Payload) (key : PublicKey) : Option Bytes := p.boxed.lookup key

/-- A payload is well formed if there are no more boxes than keys, unless it is a legacy payload,
and if its mandatory recipients are listed keys, which only one mode may have. -/
def check (p : Payload) : Except PayloadError Unit :=
  if p.keys ≠ [] ∧ p.keys.length < p.boxes.length then
    .error (.boxKeyMismatch p.boxes.length p.keys.length)
  else if p.mode = .mandatoryRecipients then
    if p.mandatory.elems.all (· ∈ p.keys) then .ok () else .error .mandatoryNotRecipient
  else if p.mandatory.isEmpty then .ok ()
  else .error .unexpectedMandatoryRecipients

/-- The payload itself, if it is well formed. -/
def checked (p : Payload) : Except PayloadError Payload := p.check.map fun _ => p

/-- The copy that a recipient gets: its own box alone and, in standard mode, its own key alone. In
every other mode its key comes first and all other keys follow. -/
def forRecipient (p : Payload) (key : PublicKey) : Option Payload :=
  (p.boxFor? key).map fun box =>
    { p with
      boxes := [box]
      keys := if p.mode = .standardPrivate then [key] else key :: p.keys.filter (· ≠ key) }

/-- The copy with a single box. -/
def withBox (p : Payload) (box : Bytes) : Payload := { p with boxes := [box] }

/-- The copy without the claims about some messages. -/
def withoutAffected (p : Payload) (remove : SortedSet MessageHash) : Payload :=
  { p with affected := p.affected.filter fun hash _ => hash ∉ remove }

/-- Adds to a payload the boxes that a copy of it brings. A legacy payload takes over every box it
does not have; any other takes over the boxes of keys that have none. The result is nothing if
there is no new box. Keys without a box come after those with one. -/
def merge (existing incoming : Payload) : Except PayloadError (Option Payload) :=
  if existing.isLegacy then
    let boxes := Sorted.appendNew existing.boxes incoming.boxes
    if boxes.length = existing.boxes.length then .ok none
    else ({ existing with boxes } : Payload).checked.map some
  else if incoming.isLegacy then .ok none
  else
    let boxed := Sorted.appendNewBy Prod.fst existing.boxed incoming.boxed
    if boxed.length = existing.boxes.length then .ok none
    else
      let keys := Sorted.appendNew (boxed.map Prod.fst) (existing.keys ++ incoming.keys)
      ({ existing with keys, boxes := boxed.map Prod.snd } : Payload).checked.map some

end Payload

/-- A payload in the making, of which the sender and the ciphertext may be missing. -/
structure Payload.Draft extends Metadata where
  sender : Option PublicKey := none
  cipherText : Option Bytes := none
  nonce : Bytes := []
  boxes : List Bytes := []
  recipientNonce : Bytes := []
  keys : List PublicKey := []

/-- Completes a payload: nothing may be missing and the result must be well formed. -/
def Payload.Draft.build (d : Payload.Draft) : Except PayloadError Payload :=
  match d.sender, d.cipherText with
  | none, _ => .error (.missingField "sender_key")
  | _, none => .error (.missingField "cipher_text")
  | some sender, some cipherText =>
    Payload.checked
      { d.toMetadata with
        sender, cipherText
        nonce := d.nonce
        boxes := d.boxes
        recipientNonce := d.recipientNonce
        keys := d.keys }

/-- A message that another one affects, under the hash it was stored under. -/
structure AffectedTransaction where
  hash : MessageHash
  payload : Payload
deriving DecidableEq

/-- A message that its sender has sealed for itself, to be sent later. -/
structure RawTransaction where
  encryptedPayload : Bytes
  encryptedKey : Bytes
  nonce : Bytes
  sender : PublicKey
deriving DecidableEq

end SealedExchange
