import SealedExchange.Payload.Codec

/-! # Stored records

What is kept about a message: its payload in the bytes of one codec, together with that codec, so
that a node may change its codec and still read what it has. Messages that wait to be sent are
kept in raw form.
-/

namespace SealedExchange

/-- A payload as it is kept. -/
structure EncryptedTransaction where
  hash : MessageHash
  encodedPayload : Bytes
  codec : Codec
deriving DecidableEq

/-- A raw transaction as it is kept. -/
structure EncryptedRawTransaction where
  hash : MessageHash
  encryptedPayload : Bytes
  encryptedKey : Bytes
  nonce : Bytes
  sender : PublicKey
deriving DecidableEq

/-- The record of a payload in a codec. -/
def EncryptedTransaction.ofPayload (p : Payload) (codec : Codec) :
    Except CodecError EncryptedTransaction := do
  let encodedPayload ← codec.encode p
  .ok { hash := p.hash, encodedPayload, codec }

/-- The payload of a record. -/
def EncryptedTransaction.payload (r : EncryptedTransaction) : Except CodecError Payload :=
  r.codec.decode r.encodedPayload

/-- The record of a raw transaction, which is named by its encrypted payload. -/
def EncryptedRawTransaction.ofRaw (raw : RawTransaction) : EncryptedRawTransaction where
  hash := .ofCipherText raw.encryptedPayload
  encryptedPayload := raw.encryptedPayload
  encryptedKey := raw.encryptedKey
  nonce := raw.nonce
  sender := raw.sender

/-- The raw transaction of a record. -/
def EncryptedRawTransaction.toRaw (r : EncryptedRawTransaction) : RawTransaction where
  encryptedPayload := r.encryptedPayload
  encryptedKey := r.encryptedKey
  nonce := r.nonce
  sender := r.sender

open Binary

/-- A codec: its place among the codecs. -/
def Codec.format : Format Codec := Format.alternative [Codec.bincode, Codec.json]

/-- The layout of a record. -/
def EncryptedTransaction.format : Format EncryptedTransaction :=
  (MessageHash.format.pair <| Format.bytes.pair Codec.format).map
    (fun (hash, encodedPayload, codec) => { hash, encodedPayload, codec })
    (fun r => (r.hash, r.encodedPayload, r.codec))

/-- The layout of a raw record. -/
def EncryptedRawTransaction.format : Format EncryptedRawTransaction :=
  (MessageHash.format.pair <| Format.bytes.pair <| Format.bytes.pair <|
    Format.bytes.pair PublicKey.format).map
    (fun (hash, encryptedPayload, encryptedKey, nonce, sender) =>
      { hash, encryptedPayload, encryptedKey, nonce, sender })
    (fun r => (r.hash, r.encryptedPayload, r.encryptedKey, r.nonce, r.sender))

end SealedExchange
