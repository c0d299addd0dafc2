import SealedExchange.Store.Record

/-! # Stores

A store keeps one record under each hash. Saving refuses a hash that is taken, updating does not,
and a hash without a record is passed over when several are looked up at once. A store may be
broken: then every operation fails, except asking whether it is alive.
-/

namespace SealedExchange

/-- What goes wrong in a store. -/
inductive StorageError
  | databaseOpen (name reason : String)
  | databaseOp (reason : String)
  | serialization (reason : String)
  | alreadyExists (hash : String)
deriving DecidableEq, Repr

/-- The wording of an error. -/
def StorageError.message : StorageError → String
  | .databaseOpen name reason => "Failed to open " ++ name ++ " database: " ++ reason
  | .databaseOp reason => "Database operation failed: " ++ reason
  | .serialization reason => "Serialization error: " ++ reason
  | .alreadyExists hash => "Record " ++ hash ++ " already exists"

/-- A kind of record: the hash it is kept under and its layout. -/
class Record (ρ : Type) where
  hash : ρ → MessageHash
  format : Binary.Format ρ

instance : Record EncryptedTransaction := ⟨EncryptedTransaction.hash, EncryptedTransaction.format⟩

instance : Record EncryptedRawTransaction :=
  ⟨EncryptedRawTransaction.hash, EncryptedRawTransaction.format⟩

/-- A store of records. -/
structure Store (ρ : Type) where
  records : SortedMap MessageHash ρ := .empty
  /-- Whether the store says that it is alive. -/
  live : Bool := true
  /-- The error of every operation of a broken store. -/
  fault : Option StorageError := none

namespace Store

variable {ρ : Type}

/-- The records, unless the store is broken. -/
def access (s : Store ρ) : Except StorageError (SortedMap MessageHash ρ) :=
  match s.fault with
  | some e => .error e
  | none => .ok s.records

/-- The record of a hash. -/
def retrieve (s : Store ρ) (hash : MessageHash) : Except StorageError (Option ρ) :=
  s.access.map fun records => records.get? hash

/-- The records of several hashes, in their order. -/
def find (s : Store ρ) (hashes : List MessageHash) : Except StorageError (List ρ) :=
  s.access.map fun records => hashes.filterMap records.get?

variable [Record ρ]

/-- Keeps a record, whether or not its hash is taken. -/
def update (s : Store ρ) (record : ρ) : Except StorageError (Store ρ) :=
  s.access.map fun records => { s with records := records.insert (Record.hash record) record }

/-- Keeps a record under a hash that is not taken. -/
def save (s : Store ρ) (record : ρ) : Except StorageError (Store ρ) := do
  let records ← s.access
  if records.contains (Record.hash record) then
    .error (.alreadyExists (Record.hash record).toBase64)
  else .ok { s with records := records.insert (Record.hash record) record }

omit [Record ρ] in
/-- Forgets the record of a hash. -/
def delete (s : Store ρ) (hash : MessageHash) : Except StorageError (Store ρ) :=
  s.access.map fun records => { s with records := records.erase hash }

end Store

end SealedExchange
