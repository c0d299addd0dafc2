import SealedExchange.Binary.Format
import SealedExchange.Payload.Basic

/-! # The binary layout of payloads

The fields of a payload one after the other. Maps and sets are written in order and read in any
order: a later entry of a map wins and a repeated element of a set counts once.
-/

namespace SealedExchange

open Binary

/-- A public key: its bytes, without a length. -/
def PublicKey.format : Format PublicKey :=
  (Format.exactly keyLength).map (fun b => ⟨b.1, b.2⟩) fun k => ⟨k.bytes, k.length_eq⟩

/-- A hash: its bytes. -/
def MessageHash.format : Format MessageHash := Format.bytes.map MessageHash.mk MessageHash.bytes

/-- A security hash: its bytes. -/
def SecurityHash.format : Format SecurityHash := Format.bytes.map SecurityHash.mk SecurityHash.bytes

/-- A privacy mode: its code. -/
def PrivacyMode.format : Format PrivacyMode := Format.alternative PrivacyMode.all

/-- The claims about affected messages, in the order of their hashes. -/
def affectedFormat : Format (SortedMap MessageHash SecurityHash) :=
  (Format.list (MessageHash.format.pair SecurityHash.format)).map SortedMap.ofList SortedMap.entries

/-- A set of keys in order. -/
def keySetFormat : Format (SortedSet PublicKey) :=
  (Format.list PublicKey.format).map SortedSet.ofList SortedSet.elems

/-- The layout of a payload. -/
def Payload.format : Format Payload :=
  (PublicKey.format.pair <| Format.bytes.pair <| Format.bytes.pair <|
    (Format.list Format.bytes).pair <| Format.bytes.pair <| (Format.list PublicKey.format).pair <|
    PrivacyMode.format.pair <| affectedFormat.pair <| Format.bytes.pair <|
    keySetFormat.pair (Format.option Format.bytes)).map
  (fun (sender, cipherText, nonce, boxes, recipientNonce, keys, mode, affected, execHash,
      mandatory, groupId) =>
    { sender, cipherText, nonce, boxes, recipientNonce, keys, mode, affected, execHash, mandatory,
      groupId })
  (fun p => (p.sender, p.cipherText, p.nonce, p.boxes, p.recipientNonce, p.keys, p.mode,
    p.affected, p.execHash, p.mandatory, p.groupId))

end SealedExchange
