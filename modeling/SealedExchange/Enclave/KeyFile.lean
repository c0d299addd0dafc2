import SealedExchange.Enclave.Basic
import SealedExchange.Json.Reader

/-! # Key files

The secrets of an enclave as a JSON document. An entry holds a public key and its secret in
base64. A secret may be locked with a password: then it is sealed under a key that is derived from
the password, and the entry holds the salt and the nonce. The first entry is the default key.
-/

namespace SealedExchange

open Json (Reader Value)

namespace KeyFile

/-- What it takes besides the password to open a locked secret, in base64. -/
structure Lock where
  salt : String
  nonce : String
deriving DecidableEq

/-- A key pair in base64. -/
structure Entry where
  publicKey : String
  secret : String
  lock : Option Lock
deriving DecidableEq

/-- Why a key file gives no enclave. -/
inductive Error
  | noKeys
  | malformed (reason : Json.Fault)
  | unsupportedVersion (version : Nat)
  | badSecret (reason : Base64.DecodeError)
  | badSalt (reason : Base64.DecodeError)
  | badNonce (reason : Base64.DecodeError)
  | saltTooShort
  | locked (key : String)
  | wrongPassword (key : String)
  | wrongLength (key : String)
  | mismatch (key : String)

/-- The wording of an error. -/
def Error.message : Error → String
  | .noKeys => "no keys configured"
  | .malformed reason => "Failed to parse key file: " ++ reason.message
  | .unsupportedVersion version => "Unsupported key file version " ++ Text.decimal version
  | .badSecret reason => "Bad secret encoding: " ++ reason.message
  | .badSalt reason => "Bad salt encoding: " ++ reason.message
  | .badNonce reason => "Bad nonce encoding: " ++ reason.message
  | .saltTooShort => "Key derivation failed: salt is too short"
  | .locked key => "Key " ++ key ++ " is locked and no password was supplied"
  | .wrongPassword key => "Wrong password for key " ++ key
  | .wrongLength key => "Secret for " ++ key ++ " has wrong length"
  | .mismatch key => "Public key " ++ key ++ " does not match its secret"

/-- The version of the format. -/
def currentVersion : Nat := 1

/-- The length of a salt in bytes. -/
def saltLength : Nat := 16

/-- The length of the shortest salt that a key can be derived with. -/
def minSaltLength : Nat := 8

end KeyFile

/-- A key file. -/
structure KeyFile where
  version : Nat
  entries : List KeyFile.Entry
deriving DecidableEq

namespace KeyFile

/-! ## The document -/

/-- The members of an entry. -/
def Entry.document (entry : Entry) : Value :=
  .object ([("public_key", .string entry.publicKey), ("secret", .string entry.secret)] ++
    match entry.lock with
    | none => []
    | some lock =>
      [("lock", .object [("salt", .string lock.salt), ("nonce", .string lock.nonce)])])

/-- The text of a key file. -/
def render (file : KeyFile) : Bytes :=
  Value.renderPretty (.object
    [("version", .nat file.version), ("keys", .array (file.entries.map Entry.document))])

/-- Reads a string. -/
def text : Reader String := Reader.text "a string"

/-- Reads a lock. -/
def Lock.reader : Reader Lock :=
  let expected := "struct KeyLock"
  Reader.record expected
    (do
      let salt ← Reader.itemAt 0 (expected ++ " with 2 elements") text
      let nonce ← Reader.itemAt 1 (expected ++ " with 2 elements") text
      pure { salt, nonce })
    (do
      let (salt, nonce) ← Reader.bounded fun fuel =>
        Reader.members (fun (salt, nonce) name => do
          match name with
          | "salt" => do let salt ← Reader.once name salt text; pure (salt, nonce)
          | "nonce" => do let nonce ← Reader.once name nonce text; pure (salt, nonce)
          | _ => do Reader.skipMember; pure (salt, nonce))
        fuel true ((none, none) : Option String × Option String)
      let salt ← Reader.required "salt" salt
      let nonce ← Reader.required "nonce" nonce
      pure { salt, nonce })

/-- The members of an entry as far as they have been read. -/
structure Entry.Partial where
  publicKey : Option String := none
  secret : Option String := none
  lock : Option (Option Lock) := none

/-- Reads an entry. -/
def Entry.reader : Reader Entry :=
  let expected := "struct StoredKey"
  Reader.record expected
    (do
      let publicKey ← Reader.itemAt 0 (expected ++ " with 3 elements") text
      let secret ← Reader.itemAt 1 (expected ++ " with 3 elements") text
      let more ← Reader.nextItem false
      let lock ← if more then Reader.option Lock.reader else pure none
      pure { publicKey, secret, lock })
    (do
      let p ← Reader.bounded fun fuel =>
        Reader.members (fun p name => do
          match name with
          | "public_key" => do
            let publicKey ← Reader.once name p.publicKey text
            pure { p with publicKey }
          | "secret" => do
            let secret ← Reader.once name p.secret text
            pure { p with secret }
          | "lock" => do
            let lock ← Reader.once name p.lock (Reader.option Lock.reader)
            pure { p with lock }
          | _ => do Reader.skipMember; pure p)
        fuel true ({} : Entry.Partial)
      let publicKey ← Reader.required "public_key" p.publicKey
      let secret ← Reader.required "secret" p.secret
      pure { publicKey, secret, lock := p.lock.join })

/-- Reads a key file. -/
def reader : Reader KeyFile :=
  let expected := "struct KeyFile"
  let versionNumber := Reader.natBelow (Bytes.count 4) "u32"
  Reader.record expected
    (do
      let version ← Reader.itemAt 0 (expected ++ " with 2 elements") versionNumber
      let entries ← Reader.itemAt 1 (expected ++ " with 2 elements") (Reader.list Entry.reader)
      pure { version, entries })
    (do
      let (version, entries) ← Reader.bounded fun fuel =>
        Reader.members (fun (version, entries) name => do
          match name with
          | "version" => do
            let version ← Reader.once name version versionNumber
            pure (version, entries)
          | "keys" => do
            let entries ← Reader.once name entries (Reader.list Entry.reader)
            pure (version, entries)
          | _ => do Reader.skipMember; pure (version, entries))
        fuel true ((none, none) : Option Nat × Option (List Entry))
      let version ← Reader.required "version" version
      let entries ← Reader.required "keys" entries
      pure { version, entries })

/-- The key file of a text. -/
def parse (contents : Bytes) : Except Error KeyFile :=
  (Reader.run reader contents).mapError .malformed

/-! ## Locking and unlocking -/

/-- The key of a password and a salt, which may not be too short. -/
def passwordKey (suite : CipherSuite) (password : String) (salt : Bytes) : Except Error Bytes :=
  if salt.length < minSaltLength then .error .saltTooShort
  else .ok (suite.stretch (Text.Utf8.encode password) salt)

/-- The entry of a key pair without a lock. -/
def Entry.plain (key : PublicKey) (secret : SecretKey) : Entry where
  publicKey := key.toBase64
  secret := Base64.encode secret.bytes
  lock := none

/-- The entry of a key pair locked with a password. -/
def Entry.locked (suite : CipherSuite) (password : String) (salt nonce : Bytes)
    (key : PublicKey) (secret : SecretKey) : Entry where
  publicKey := key.toBase64
  secret := Base64.encode
    (suite.encrypt (suite.stretch (Text.Utf8.encode password) salt) nonce secret.bytes)
  lock := some { salt := Base64.encode salt, nonce := Base64.encode nonce }

/-- Makes the entry of a key pair, which is locked if there is a password. -/
def Entry.make (suite : CipherSuite) (password : Option String) (key : PublicKey)
    (secret : SecretKey) : StateM Entropy Entry := do
  match password with
  | none => pure (Entry.plain key secret)
  | some password => do
    let salt ← Entropy.draw saltLength
    let nonce ← Entropy.draw CipherSuite.nonceLength
    pure (Entry.locked suite password salt nonce key secret)

/-- The bytes of an entry's secret. -/
def Entry.unlock (suite : CipherSuite) (password : Option String) (entry : Entry) :
    Except Error Bytes := do
  let stored ← (Base64.decode entry.secret).mapError .badSecret
  match entry.lock, password with
  | none, _ => .ok stored
  | some _, none => .error (.locked entry.publicKey)
  | some lock, some password => do
    let salt ← (Base64.decode lock.salt).mapError .badSalt
    let nonce ← (Base64.decode lock.nonce).mapError .badNonce
    -- Both texts are read before the key is derived.
    let key ← passwordKey suite password salt
    match suite.open? key nonce stored with
    | some plain => .ok plain
    | none => .error (.wrongPassword entry.publicKey)

/-- The secret of an entry, which must belong to its public key. -/
def Entry.secretKey (suite : CipherSuite) (password : Option String) (entry : Entry) :
    Except Error SecretKey := do
  let plain ← entry.unlock suite password
  match SecretKey.ofBytes? plain with
  | none => .error (.wrongLength entry.publicKey)
  | some secret =>
    if (suite.publicKey secret).toBase64 = entry.publicKey then .ok secret
    else .error (.mismatch entry.publicKey)

/-- The secrets of entries, in order. -/
def secrets (suite : CipherSuite) (password : Option String) :
    List Entry → Except Error (List SecretKey)
  | [] => .ok []
  | entry :: rest => do
    let secret ← entry.secretKey suite password
    let more ← secrets suite password rest
    .ok (secret :: more)

/-- The enclave of a list of secrets, which may not be empty. -/
def enclaveOf (suite : CipherSuite) (secrets : List SecretKey) : Except Error Enclave :=
  match Enclave.ofSecrets? suite secrets with
  | some enclave => .ok enclave
  | none => .error .noKeys

/-- The enclave of a key file. -/
def load (suite : CipherSuite) (password : Option String) (contents : Bytes) :
    Except Error Enclave := do
  let file ← parse contents
  if file.version = currentVersion then do
    let found ← secrets suite password file.entries
    enclaveOf suite found
  else .error (.unsupportedVersion file.version)

/-- The managed key pairs of an enclave: the default key's first, then the others in order. -/
def orderedKeys (e : Enclave) : List (PublicKey × SecretKey) :=
  e.keys.entries.filter (·.1 = e.defaultKey) ++ e.keys.entries.filter (·.1 ≠ e.defaultKey)

/-- Makes entries one after the other. -/
def makeEntries (suite : CipherSuite) (password : Option String) :
    List (PublicKey × SecretKey) → StateM Entropy (List Entry)
  | [] => pure []
  | (key, secret) :: rest => do
    let entry ← Entry.make suite password key secret
    let entries ← makeEntries suite password rest
    pure (entry :: entries)

/-- The text of an enclave's key file. -/
def save (password : Option String) (e : Enclave) : StateM Entropy Bytes := do
  let entries ← makeEntries e.suite password (orderedKeys e)
  pure ({ version := currentVersion, entries } : KeyFile).render

/-- Draws secrets. -/
def drawSecrets : Nat → StateM Entropy (List SecretKey)
  | 0 => pure []
  | n + 1 => fun e =>
    let secret : SecretKey := ⟨e.peek keyLength, Entropy.length_peek e keyLength⟩
    let (rest, e) := drawSecrets n (e.skip keyLength)
    (secret :: rest, e)

/-- An enclave with as many new keys as asked for, but at least one. -/
def generate (suite : CipherSuite) (count : Nat) : Drawing Error Enclave := fun e =>
  let (secrets, e) := drawSecrets (max count 1) e
  (enclaveOf suite secrets, e)

/-- Loads a key file or, if there is none, makes a new key and the file that holds it. -/
def loadOrGenerate (suite : CipherSuite) (password : Option String) (contents : Option Bytes) :
    Drawing Error (Enclave × Option Bytes) := do
  match contents with
  | some contents => do
    let enclave ← Drawing.ofExcept (load suite password contents)
    pure (enclave, none)
  | none => do
    let enclave ← generate suite 1
    let contents ← (save password enclave : StateM Entropy Bytes)
    pure (enclave, some contents)

end KeyFile

end SealedExchange
