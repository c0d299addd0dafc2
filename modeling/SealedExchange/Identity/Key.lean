import SealedExchange.Base64
import SealedExchange.Sorted.Order
import SealedExchange.Text.Basic

/-! # Public keys

A party is addressed by its public key: 32 bytes, shown to people as base64.
-/

namespace SealedExchange

/-- The length of public and secret keys in bytes. -/
def keyLength : Nat := 32

/-- A public key. -/
structure PublicKey where
  bytes : Bytes
  length_eq : bytes.length = keyLength
deriving DecidableEq

/-- The secret that belongs to a public key. -/
structure SecretKey where
  bytes : Bytes
  length_eq : bytes.length = keyLength
deriving DecidableEq

/-- Why something is not a public key. -/
inductive InvalidKey
  | length (actual : Nat)
  | encoding (reason : Base64.DecodeError)
deriving DecidableEq, Repr

/-- The reason alone. -/
def InvalidKey.reason : InvalidKey → String
  | .length actual =>
    "expected " ++ Text.decimal keyLength ++ " bytes, got " ++ Text.decimal actual
  | .encoding reason => "bad base64: " ++ reason.message

/-- The wording of the error. -/
def InvalidKey.message (e : InvalidKey) : String := "Invalid public key: " ++ e.reason

namespace PublicKey

theorem ext_bytes {a b : PublicKey} (h : a.bytes = b.bytes) : a = b := by
  cases a; cases b; cases h; rfl

instance : Ord PublicKey := Sorted.ordBy PublicKey.bytes

instance : Std.TransOrd PublicKey := Sorted.transOrd_ordBy PublicKey.bytes

instance : Std.LawfulEqOrd PublicKey :=
  Sorted.lawfulEqOrd_ordBy PublicKey.bytes fun _ _ => ext_bytes

/-- The key with the given bytes, if their number is right. -/
def ofBytes? (bytes : Bytes) : Option PublicKey :=
  if h : bytes.length = keyLength then some ⟨bytes, h⟩ else none

/-- The key with the given bytes. -/
def ofBytes (bytes : Bytes) : Except InvalidKey PublicKey :=
  if h : bytes.length = keyLength then .ok ⟨bytes, h⟩ else .error (.length bytes.length)

/-- Reads a key from base64, with blanks around it ignored. -/
def ofBase64 (text : String) : Except InvalidKey PublicKey :=
  match Base64.decode (Text.trim text) with
  | .ok bytes => ofBytes bytes
  | .error e => .error (.encoding e)

/-- The base64 text of a key. -/
def toBase64 (key : PublicKey) : String := Base64.encode key.bytes

end PublicKey

/-- The secret key with the given bytes, if their number is right. -/
def SecretKey.ofBytes? (bytes : Bytes) : Option SecretKey :=
  if h : bytes.length = keyLength then some ⟨bytes, h⟩ else none

end SealedExchange
