import SealedExchange.Crypto.Argon2
import SealedExchange.Crypto.Curve25519
import SealedExchange.Crypto.Gcm
import SealedExchange.Crypto.Sha256
import SealedExchange.Identity.Key

/-! # Cipher suites

The cryptography that an enclave is built on, as a record of functions, so that what is proved
about enclaves names the laws it needs and nothing else. `CipherSuite.standard` is X25519 with
AES-256-GCM, HMAC-SHA-256 and Argon2id.
-/

namespace SealedExchange

/-- The primitives of an enclave. -/
structure CipherSuite where
  /-- The public key of a secret key. -/
  publicKey : SecretKey → PublicKey
  /-- The secret that two parties share: one's secret key and the other's public key. -/
  agree : SecretKey → PublicKey → Bytes
  /-- Derives the key that seals boxes from a shared secret. -/
  derive : Bytes → Bytes
  /-- Seals a message under a key and a nonce. -/
  encrypt : (key nonce message : Bytes) → Bytes
  /-- Opens a sealed message under a key and a nonce. -/
  decrypt? : (key nonce sealed : Bytes) → Option Bytes
  /-- The key of a password and a salt. -/
  stretch : (password salt : Bytes) → Bytes

namespace CipherSuite

/-- The length of a nonce in bytes. -/
def nonceLength : Nat := Crypto.Gcm.nonceLength

/-- The length of the key of a message in bytes. -/
def masterKeyLength : Nat := 32

/-- What the key of a box is bound to. -/
def boxContext : Bytes := Text.Utf8.encode "privtx/recipient-box/v1"

/-- X25519, AES-256-GCM, HMAC-SHA-256 and Argon2id. -/
def standard : CipherSuite where
  publicKey secret := ⟨Crypto.Curve25519.publicKey secret.bytes, by simp [keyLength]⟩
  agree secret other := Crypto.Curve25519.agree secret.bytes other.bytes
  derive shared := Crypto.Sha256.hmac shared boxContext
  encrypt := Crypto.Gcm.encrypt
  decrypt? := Crypto.Gcm.decrypt?
  stretch := Crypto.Argon2.derive .standard 32

/-- Opens a sealed message; a nonce of another length than usual opens nothing. -/
def open? (suite : CipherSuite) (key nonce sealed : Bytes) : Option Bytes :=
  if nonce.length = nonceLength then suite.decrypt? key nonce sealed else none

/-- The key of the boxes between the holder of a secret key and another party. -/
def boxKey (suite : CipherSuite) (secret : SecretKey) (other : PublicKey) : Bytes :=
  suite.derive (suite.agree secret other)

end CipherSuite

end SealedExchange
