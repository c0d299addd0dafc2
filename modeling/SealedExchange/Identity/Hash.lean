import SealedExchange.Crypto.Sha512
import SealedExchange.Identity.Key
import SealedExchange.Sorted.Set

/-! # Hashes of messages and of recipient sets

A message is known by the hash of its ciphertext. A security hash binds a ciphertext to the set
of its recipients, so that parties can tell whether they agree on that set without showing it.
-/

namespace SealedExchange

/-- The hash that names a message. -/
structure MessageHash where
  bytes : Bytes
deriving DecidableEq

namespace MessageHash

theorem ext_bytes {a b : MessageHash} (h : a.bytes = b.bytes) : a = b := by
  cases a; cases b; cases h; rfl

instance : Ord MessageHash := Sorted.ordBy MessageHash.bytes

instance : Std.TransOrd MessageHash := Sorted.transOrd_ordBy MessageHash.bytes

instance : Std.LawfulEqOrd MessageHash :=
  Sorted.lawfulEqOrd_ordBy MessageHash.bytes fun _ _ => ext_bytes

/-- The name of the message with a given ciphertext. -/
def ofCipherText (cipherText : Bytes) : MessageHash := ⟨Crypto.Sha512.digest cipherText⟩

/-- Reads a hash from base64, with blanks around it ignored. -/
def ofBase64 (text : String) : Except Base64.DecodeError MessageHash :=
  (Base64.decode (Text.trim text)).map MessageHash.mk

/-- The base64 text of a hash. -/
def toBase64 (hash : MessageHash) : String := Base64.encode hash.bytes

end MessageHash

/-- A hash of a recipient set together with a ciphertext. -/
structure SecurityHash where
  bytes : Bytes
deriving DecidableEq

namespace SecurityHash

/-- What is hashed: the number of recipients, their keys in order, and the ciphertext. -/
def preimage (recipients : SortedSet PublicKey) (cipherText : Bytes) : Bytes :=
  Bytes.ofNatBE 8 recipients.size ++ recipients.elems.flatMap PublicKey.bytes ++ cipherText

/-- The security hash of a recipient set and a ciphertext. -/
def derive (recipients : SortedSet PublicKey) (cipherText : Bytes) : SecurityHash :=
  ⟨Crypto.Sha512.digest (preimage recipients cipherText)⟩

/-- The base64 text of a hash. -/
def toBase64 (hash : SecurityHash) : String := Base64.encode hash.bytes

end SecurityHash

end SealedExchange
