import SealedExchange.Enclave.Entropy
import SealedExchange.Enclave.Suite
import SealedExchange.Payload.Basic

/-! # Enclaves

An enclave holds secret keys and does with them all that needs them: it seals messages for
recipients and opens what was sealed for one of its keys. Each message has a key of its own, the
master key; a recipient's box is the master key under a key that the sender and the recipient
share, so either of them can open it.
-/

namespace SealedExchange

/-- What an enclave refuses. -/
inductive EnclaveError
  | keyNotManaged (key : String)
  | missingRecipientBox (key : String)
  | decryptionFailed
  | encryptionFailed
  | keyFile (reason : String)
  | payload (reason : PayloadError)
  | io
deriving DecidableEq, Repr

/-- The wording of an error. -/
def EnclaveError.message : EnclaveError → String
  | .keyNotManaged key => "Key not managed by this enclave: " ++ key
  | .missingRecipientBox key => "Recipient box missing for key " ++ key
  | .decryptionFailed => "Decryption failed"
  | .encryptionFailed => "Encryption failed"
  | .keyFile reason => "Key file error: " ++ reason
  | .payload reason => "Invalid payload: " ++ reason.message
  | .io => "IO error"

/-- A holder of secret keys. -/
structure Enclave where
  suite : CipherSuite
  /-- The secret of each managed key. -/
  keys : SortedMap PublicKey SecretKey
  defaultKey : PublicKey
  /-- Keys that get a copy of every message in standard mode. -/
  forwarding : SortedSet PublicKey

namespace Enclave

/-- Tests whether the enclave holds the secret of a key. -/
def manages (e : Enclave) (key : PublicKey) : Bool := e.keys.contains key

/-- The managed keys in order. -/
def managedKeys (e : Enclave) : List PublicKey := e.keys.keys

/-- The secret of a managed key. -/
def secretOf (e : Enclave) (key : PublicKey) : Except EnclaveError SecretKey :=
  match e.keys.get? key with
  | some secret => .ok secret
  | none => .error (.keyNotManaged key.toBase64)

/-- The enclave of a list of secrets, of which the first gives the default key. -/
def ofSecrets? (suite : CipherSuite) (secrets : List SecretKey) : Option Enclave :=
  secrets.head?.map fun first =>
    { suite
      keys := .ofList (secrets.map fun secret => (suite.publicKey secret, secret))
      defaultKey := suite.publicKey first
      forwarding := .empty }

/-- The key of the boxes between a managed key and another party. -/
def boxKey (e : Enclave) (key other : PublicKey) : Except EnclaveError Bytes := do
  let secret ← e.secretOf key
  .ok (e.suite.boxKey secret other)

/-- The key of a box, from whichever side the enclave holds. -/
def openBoxKey (e : Enclave) (sender recipient : PublicKey) : Except EnclaveError Bytes :=
  if e.manages recipient then e.boxKey recipient sender
  else if e.manages sender then e.boxKey sender recipient
  else .error (.keyNotManaged recipient.toBase64)

/-- Opens a sealed message. -/
def unsealed (e : Enclave) (key nonce sealed : Bytes) : Except EnclaveError Bytes :=
  match e.suite.open? key nonce sealed with
  | some message => .ok message
  | none => .error .decryptionFailed

/-- Opens a sealed master key, whose length must be right. -/
def unsealedMasterKey (e : Enclave) (key nonce sealed : Bytes) : Except EnclaveError Bytes := do
  let opened ← e.unsealed key nonce sealed
  if opened.length = CipherSuite.masterKeyLength then .ok opened else .error .decryptionFailed

/-- Seals a master key once for each recipient. -/
def sealBoxes (e : Enclave) (sender : PublicKey) (masterKey nonce : Bytes) :
    List PublicKey → Except EnclaveError (List Bytes)
  | [] => .ok []
  | recipient :: rest => do
    let key ← e.boxKey sender recipient
    let boxes ← e.sealBoxes sender masterKey nonce rest
    .ok (e.suite.encrypt key nonce masterKey :: boxes)

/-- The random bytes that sealing a payload takes. -/
structure PayloadDraws where
  masterKey : Bytes
  nonce : Bytes
  recipientNonce : Bytes

/-- Draws the random bytes that sealing a payload takes. -/
def PayloadDraws.draw : Drawing ε PayloadDraws := do
  let masterKey ← Drawing.draw CipherSuite.masterKeyLength
  let nonce ← Drawing.draw CipherSuite.nonceLength
  let recipientNonce ← Drawing.draw CipherSuite.nonceLength
  pure { masterKey, nonce, recipientNonce }

/-- Puts a payload together and checks it. -/
def assemble (sender : PublicKey) (cipherText nonce : Bytes) (boxes : List Bytes)
    (recipientNonce : Bytes) (keys : List PublicKey) (metadata : Metadata) :
    Except EnclaveError Payload :=
  (Payload.checked
    { metadata with sender, cipherText, nonce, boxes, recipientNonce, keys }).mapError .payload

/-- Seals a message for recipients with given random bytes. -/
def sealWith (e : Enclave) (draws : PayloadDraws) (message : Bytes) (sender : PublicKey)
    (recipients : List PublicKey) (metadata : Metadata) : Except EnclaveError Payload := do
  let boxes ← e.sealBoxes sender draws.masterKey draws.recipientNonce recipients
  assemble sender (e.suite.encrypt draws.masterKey draws.nonce message) draws.nonce boxes
    draws.recipientNonce recipients metadata

/-- Seals a message for recipients. -/
def encryptPayload (e : Enclave) (message : Bytes) (sender : PublicKey)
    (recipients : List PublicKey) (metadata : Metadata) : Drawing EnclaveError Payload := do
  let draws ← PayloadDraws.draw
  Drawing.ofExcept (e.sealWith draws message sender recipients metadata)

/-- Opens the master key of a raw transaction, which its sender sealed for itself. -/
def rawMasterKey (e : Enclave) (raw : RawTransaction) : Except EnclaveError Bytes := do
  let key ← e.boxKey raw.sender raw.sender
  e.unsealedMasterKey key raw.nonce raw.encryptedKey

/-- Makes a payload of a raw transaction's master key with a given nonce for the boxes. -/
def addressWith (e : Enclave) (masterKey recipientNonce : Bytes) (raw : RawTransaction)
    (recipients : List PublicKey) (metadata : Metadata) : Except EnclaveError Payload := do
  let boxes ← e.sealBoxes raw.sender masterKey recipientNonce recipients
  assemble raw.sender raw.encryptedPayload raw.nonce boxes recipientNonce recipients metadata

/-- Makes a payload of a raw transaction: the ciphertext stays, the master key gets boxes. -/
def encryptRawPayload (e : Enclave) (raw : RawTransaction) (recipients : List PublicKey)
    (metadata : Metadata) : Drawing EnclaveError Payload := do
  let masterKey ← Drawing.ofExcept (e.rawMasterKey raw)
  let recipientNonce ← Drawing.draw CipherSuite.nonceLength
  Drawing.ofExcept (e.addressWith masterKey recipientNonce raw recipients metadata)

/-- Seals a message for its sender alone with a given master key and nonce. The message and the
master key are sealed under different keys, so one nonce serves both. -/
def sealRawWith (e : Enclave) (masterKey nonce message : Bytes) (sender : PublicKey) :
    Except EnclaveError RawTransaction := do
  let key ← e.boxKey sender sender
  .ok
    { encryptedPayload := e.suite.encrypt masterKey nonce message
      encryptedKey := e.suite.encrypt key nonce masterKey
      nonce, sender }

/-- Seals a message for its sender alone, to be sent later. -/
def encryptRaw (e : Enclave) (message : Bytes) (sender : PublicKey) :
    Drawing EnclaveError RawTransaction := do
  let masterKey ← Drawing.draw CipherSuite.masterKeyLength
  let nonce ← Drawing.draw CipherSuite.nonceLength
  Drawing.ofExcept (e.sealRawWith masterKey nonce message sender)

/-- The box that a key has to open: in a legacy payload the first one, otherwise its own. -/
def boxToOpen (p : Payload) (key : PublicKey) : Except EnclaveError Bytes :=
  match if p.isLegacy then p.boxes.head? else p.boxFor? key with
  | some box => .ok box
  | none => .error (.missingRecipientBox key.toBase64)

/-- Opens a payload with a key. -/
def decrypt (e : Enclave) (p : Payload) (key : PublicKey) : Except EnclaveError Bytes := do
  let box ← boxToOpen p key
  let boxKey ← e.openBoxKey p.sender key
  let masterKey ← e.unsealedMasterKey boxKey p.recipientNonce box
  e.unsealed masterKey p.nonce p.cipherText

/-- Opens a raw transaction. -/
def decryptRaw (e : Enclave) (raw : RawTransaction) : Except EnclaveError Bytes := do
  let masterKey ← e.rawMasterKey raw
  e.unsealed masterKey raw.nonce raw.encryptedPayload

/-- The security hash that a message's recipients give an affected message: that of the recipients
the two have in common. -/
def sharedSecurityHash (recipients : SortedSet PublicKey) (affected : Payload) : SecurityHash :=
  .derive (affected.keySet.inter recipients) affected.cipherText

/-- The affected messages about which a payload does not claim their security hash. -/
def invalidSecurityHashes (p : Payload) (affected : List AffectedTransaction) :
    SortedSet MessageHash :=
  .ofList ((affected.filter fun tx =>
    p.affected.get? tx.hash ≠ some (sharedSecurityHash p.keySet tx.payload)).map (·.hash))

end Enclave

end SealedExchange
