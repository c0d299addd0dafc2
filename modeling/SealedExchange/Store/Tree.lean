import SealedExchange.Store.Basic

/-! # Stores on byte strings

The same store on top of a map from byte strings to byte strings, as an embedded database offers
it: a record is kept as its layout under the bytes of its hash, and saving is a comparison and an
exchange in one step.
-/

namespace SealedExchange

/-- An ordered map from byte strings to byte strings. -/
abbrev ByteTree := SortedMap Bytes Bytes

/-- Puts a value in the place of another one, if that is what the tree holds; otherwise the value
that it holds is returned. -/
def ByteTree.compareAndSwap (tree : ByteTree) (key : Bytes) (expected : Option Bytes)
    (value : Bytes) : Except (Option Bytes) ByteTree :=
  if tree.get? key = expected then .ok (tree.insert key value) else .error (tree.get? key)

/-- A store of records in a tree. -/
structure TreeStore (ρ : Type) where
  tree : ByteTree := .empty

namespace TreeStore

variable {ρ : Type} [Record ρ]

/-- The bytes of a record. -/
def encode (record : ρ) : Except StorageError Bytes :=
  (Record.format.write record).mapError fun e => .serialization e.message

/-- The record of some bytes. -/
def decode (bytes : Bytes) : Except StorageError ρ :=
  (Record.format.decode bytes).mapError fun e => .serialization e.message

/-- Keeps a record under a hash that is not taken. -/
def save (s : TreeStore ρ) (record : ρ) : Except StorageError (TreeStore ρ) := do
  let value ← encode record
  match s.tree.compareAndSwap (Record.hash record).bytes none value with
  | .ok tree => .ok { tree }
  | .error _ => .error (.alreadyExists (Record.hash record).toBase64)

/-- Keeps a record, whether or not its hash is taken. -/
def update (s : TreeStore ρ) (record : ρ) : Except StorageError (TreeStore ρ) := do
  let value ← encode record
  .ok { tree := s.tree.insert (Record.hash record).bytes value }

omit [Record ρ] in
/-- Forgets the record of a hash. -/
def delete (s : TreeStore ρ) (hash : MessageHash) : Except StorageError (TreeStore ρ) :=
  .ok { tree := s.tree.erase hash.bytes }

/-- The record of a hash. -/
def retrieve (s : TreeStore ρ) (hash : MessageHash) : Except StorageError (Option ρ) :=
  match s.tree.get? hash.bytes with
  | some bytes => (decode bytes).map some
  | none => .ok none

/-- The records of several hashes, in their order. -/
def find (s : TreeStore ρ) : List MessageHash → Except StorageError (List ρ)
  | [] => .ok []
  | hash :: rest => do
    let found ← s.retrieve hash
    let more ← s.find rest
    .ok (found.toList ++ more)

end TreeStore

end SealedExchange
