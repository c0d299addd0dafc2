import SealedExchange.Proofs.Store.Laws
import SealedExchange.Store.Tree

/-! # Two kinds of store, one behaviour

A store that keeps records and one that keeps their bytes in a tree answer every sequence of calls
alike. The tree mirrors the records: under the bytes of a hash it has the layout of the record that
the other store has under the hash, and nothing where that has nothing. Each call keeps the mirror
image and gives the same result on both sides, because a record is read back from its layout.
-/

namespace SealedExchange

/-! ## Calls -/

/-- What a store of records offers. An operation that changes the store gives the new one. -/
class RecordStore (σ : Type) (ρ : outParam Type) where
  save : σ → ρ → Except StorageError σ
  update : σ → ρ → Except StorageError σ
  delete : σ → MessageHash → Except StorageError σ
  retrieve : σ → MessageHash → Except StorageError (Option ρ)
  find : σ → List MessageHash → Except StorageError (List ρ)

variable {ρ : Type}

instance [Record ρ] : RecordStore (Store ρ) ρ where
  save := Store.save
  update := Store.update
  delete := Store.delete
  retrieve := Store.retrieve
  find := Store.find

instance [Record ρ] : RecordStore (TreeStore ρ) ρ where
  save := TreeStore.save
  update := TreeStore.update
  delete := TreeStore.delete
  retrieve := TreeStore.retrieve
  find := TreeStore.find

/-- A call of a store. -/
inductive StoreCall (ρ : Type)
  | save (record : ρ)
  /-- Saves a record and then runs a callback. -/
  | saveThen (record : ρ)
  | update (record : ρ)
  | delete (hash : MessageHash)
  | retrieve (hash : MessageHash)
  | find (hashes : List MessageHash)

/-- The record that a call brings. -/
def StoreCall.record? : StoreCall ρ → Option ρ
  | save record | saveThen record | update record => some record
  | delete _ | retrieve _ | find _ => none

/-- What a call gives back. -/
inductive StoreResult (ρ : Type)
  | done
  | record (found : Option ρ)
  | records (found : List ρ)

/-- What the caller sees of a call: its result, and whether its callback has run. -/
structure StoreOutcome (ρ : Type) where
  result : Except StorageError (StoreResult ρ)
  calledBack : Bool := false

namespace RecordStore

variable {σ : Type} [RecordStore σ ρ]

/-- The outcome of a change and the store after it, which is the old one if the change has failed.
A callback runs only if it has not. -/
def conclude (s : σ) (callback : Bool) : Except StorageError σ → StoreOutcome ρ × σ
  | .ok changed => ({ result := .ok .done, calledBack := callback }, changed)
  | .error e => ({ result := .error e }, s)

/-- Makes a call. -/
def perform (s : σ) : StoreCall ρ → StoreOutcome ρ × σ
  | .save record => conclude s false (save s record)
  | .saveThen record => conclude s true (save s record)
  | .update record => conclude s false (update s record)
  | .delete hash => conclude s false (delete s hash)
  | .retrieve hash => ({ result := (retrieve s hash).map .record }, s)
  | .find hashes => ({ result := (find s hashes).map .records }, s)

/-- Makes several calls one after the other. -/
def run (s : σ) : List (StoreCall ρ) → List (StoreOutcome ρ) × σ
  | [] => ([], s)
  | call :: rest =>
    let (outcome, s) := perform s call
    let (outcomes, s) := run s rest
    (outcome :: outcomes, s)

end RecordStore

/-! ## The mirror image -/

section Mirror

variable [Record ρ] {s : Store ρ} {t : TreeStore ρ} {hash : MessageHash} {record : ρ}

/-- A tree holds the layouts of the records that a store holds. -/
structure Store.Mirrors (s : Store ρ) (t : TreeStore ρ) : Prop where
  sound : s.fault = none
  entries : ∀ hash : MessageHash, Option.Rel
    (fun record bytes => Record.format.write record = .ok bytes)
    (s.records.get? hash) (t.tree.get? hash.bytes)

theorem Store.mirrors_empty : ({} : Store ρ).Mirrors {} := ⟨rfl, fun _ => .none⟩

namespace Store.Mirrors

theorem access (h : s.Mirrors t) : s.access = .ok s.records :=
  access_eq_ok_iff.mpr ⟨h.sound, rfl⟩

/-- A hash is free on both sides, or taken on both by a record and its layout. -/
theorem entry_cases (h : s.Mirrors t) (hash : MessageHash) :
    (s.records.get? hash = none ∧ t.tree.get? hash.bytes = none) ∨
      ∃ record bytes, s.records.get? hash = some record ∧
        t.tree.get? hash.bytes = some bytes ∧ Record.format.write record = .ok bytes := by
  have hentry := h.entries hash
  generalize s.records.get? hash = found at hentry
  generalize t.tree.get? hash.bytes = stored at hentry
  cases hentry with
  | none => exact .inl ⟨rfl, rfl⟩
  | some hbytes => exact .inr ⟨_, _, rfl, rfl, hbytes⟩

theorem insert (h : s.Mirrors t) {bytes : Bytes} (hbytes : Record.format.write record = .ok bytes) :
    ({ s with records := s.records.insert hash record } : Store ρ).Mirrors
      { tree := t.tree.insert hash.bytes bytes } := by
  refine ⟨h.sound, fun other => ?_⟩
  rw [SortedMap.get?_insert, SortedMap.get?_insert]
  by_cases heq : other = hash
  · rw [if_pos heq, if_pos (congrArg _ heq)]
    exact .some hbytes
  · rw [if_neg heq, if_neg fun hbytes => heq (MessageHash.ext_bytes hbytes)]
    exact h.entries other

theorem erase (h : s.Mirrors t) : ({ s with records := s.records.erase hash } : Store ρ).Mirrors
    { tree := t.tree.erase hash.bytes } := by
  refine ⟨h.sound, fun other => ?_⟩
  rw [SortedMap.get?_erase, SortedMap.get?_erase]
  by_cases heq : other = hash
  · rw [if_pos heq, if_pos (congrArg _ heq)]
    exact .none
  · rw [if_neg heq, if_neg fun hbytes => heq (MessageHash.ext_bytes hbytes)]
    exact h.entries other

/-! ## Reading -/

theorem retrieve (h : s.Mirrors t) (hlawful : (Record.format : Binary.Format ρ).Lawful)
    (hash : MessageHash) : t.retrieve hash = s.retrieve hash := by
  rw [Store.retrieve, h.access, map_ok, TreeStore.retrieve]
  rcases h.entry_cases hash with ⟨hfree, hfree'⟩ | ⟨record, bytes, hget, hget', hbytes⟩
  · rw [hfree, hfree']
  · simp only [hget, hget', TreeStore.decode, Binary.Format.decode_of_write hlawful hbytes,
      mapError_ok, map_ok]

theorem find (h : s.Mirrors t) (hlawful : (Record.format : Binary.Format ρ).Lawful)
    (hashes : List MessageHash) : t.find hashes = s.find hashes := by
  rw [Store.find, h.access, map_ok]
  induction hashes with
  | nil => rfl
  | cons hash rest ih =>
    rw [TreeStore.find, h.retrieve hlawful, Store.retrieve, h.access, map_ok, ok_bind, ih, ok_bind,
      List.filterMap_cons]
    cases s.records.get? hash <;> rfl

/-! ## Changing -/

/-- Both sides change alike: they fail with the same error, or the changed tree mirrors the changed
records. -/
inductive Alike : Except StorageError (Store ρ) → Except StorageError (TreeStore ρ) → Prop
  | ok {s : Store ρ} {t : TreeStore ρ} (h : s.Mirrors t) : Alike (.ok s) (.ok t)
  | error (e : StorageError) : Alike (.error e) (.error e)

theorem save (h : s.Mirrors t) (hwrites : Record.format.Writes record) :
    Alike (s.save record) (t.save record) := by
  obtain ⟨bytes, hbytes⟩ := hwrites
  rw [Store.save, h.access, ok_bind, TreeStore.save, TreeStore.encode, hbytes, mapError_ok, ok_bind,
    ByteTree.compareAndSwap, SortedMap.contains_eq_isSome]
  rcases h.entry_cases (Record.hash record) with ⟨hfree, hfree'⟩ | ⟨_, _, htaken, htaken', -⟩
  · rw [hfree, hfree']
    exact .ok (h.insert hbytes)
  · rw [htaken, htaken']
    exact .error _

theorem update (h : s.Mirrors t) (hwrites : Record.format.Writes record) :
    Alike (s.update record) (t.update record) := by
  obtain ⟨bytes, hbytes⟩ := hwrites
  rw [Store.update, h.access, map_ok, TreeStore.update, TreeStore.encode, hbytes, mapError_ok,
    ok_bind]
  exact .ok (h.insert hbytes)

theorem delete (h : s.Mirrors t) (hash : MessageHash) :
    Alike (s.delete hash) (t.delete hash) := by
  rw [Store.delete, h.access, map_ok]
  exact .ok h.erase

/-! ## Calls and runs -/

/-- Two sides show the same and end with a tree that mirrors the records. -/
structure Agree {α : Type} (x : α × Store ρ) (y : α × TreeStore ρ) : Prop where
  shown : y.1 = x.1
  mirrors : x.2.Mirrors y.2

theorem Alike.conclude {x : Except StorageError (Store ρ)} {y : Except StorageError (TreeStore ρ)}
    (halike : Alike x y) (h : s.Mirrors t) (callback : Bool) :
    Agree (α := StoreOutcome ρ) (RecordStore.conclude s callback x)
      (RecordStore.conclude t callback y) := by
  cases halike with
  | ok hchanged => exact ⟨rfl, hchanged⟩
  | error => exact ⟨rfl, h⟩

/-- A call shows the same on both sides and keeps the mirror image. -/
theorem perform (h : s.Mirrors t) (hlawful : (Record.format : Binary.Format ρ).Lawful)
    {call : StoreCall ρ} (hwrites : ∀ record, call.record? = some record →
      Record.format.Writes record) :
    Agree (RecordStore.perform s call) (RecordStore.perform t call) := by
  cases call with
  | save record => exact (h.save (hwrites record rfl)).conclude h false
  | saveThen record => exact (h.save (hwrites record rfl)).conclude h true
  | update record => exact (h.update (hwrites record rfl)).conclude h false
  | delete hash => exact (h.delete hash).conclude h false
  | retrieve hash =>
    have hfound : (RecordStore.retrieve t hash : Except StorageError (Option ρ)) =
        RecordStore.retrieve s hash := h.retrieve hlawful hash
    exact ⟨by rw [RecordStore.perform, hfound]; rfl, h⟩
  | find hashes =>
    have hfound : (RecordStore.find t hashes : Except StorageError (List ρ)) =
        RecordStore.find s hashes := h.find hlawful hashes
    exact ⟨by rw [RecordStore.perform, hfound]; rfl, h⟩

theorem run (h : s.Mirrors t) (hlawful : (Record.format : Binary.Format ρ).Lawful)
    {calls : List (StoreCall ρ)} (hwrites : ∀ call ∈ calls, ∀ record,
      call.record? = some record → Record.format.Writes record) :
    Agree (RecordStore.run s calls) (RecordStore.run t calls) := by
  induction calls generalizing s t with
  | nil => exact ⟨rfl, h⟩
  | cons call rest ih =>
    have hcall := h.perform hlawful (hwrites call List.mem_cons_self)
    -- Behind the first call the two are mirror images again.
    have hrest := ih hcall.mirrors fun other hmem => hwrites other (.tail _ hmem)
    exact ⟨congrArg₂ List.cons hcall.shown hrest.shown, hrest.mirrors⟩

end Store.Mirrors

end Mirror

/-! ## Both kinds of record -/

section Layout

open Binary

theorem Codec.lawful_format : Codec.format.Lawful := Format.lawful_alternative _

theorem Codec.writes_format (codec : Codec) : Codec.format.Writes codec := by
  cases codec <;> exact ⟨_, rfl⟩

namespace EncryptedTransaction

/-- The parts of a record are no longer than a length field can say. -/
structure Fits (record : EncryptedTransaction) : Prop where
  hash : record.hash.bytes.length < Bytes.count 8
  encodedPayload : record.encodedPayload.length < Bytes.count 8

theorem lawful_format : EncryptedTransaction.format.Lawful := by
  refine Format.lawful_map ?_ fun _ => rfl
  apply Format.lawful_pair MessageHash.lawful_format
  exact Format.lawful_pair Format.lawful_bytes Codec.lawful_format

theorem Fits.writes {record : EncryptedTransaction} (h : record.Fits) :
    EncryptedTransaction.format.Writes record := by
  apply Format.writes_map
  apply Format.writes_pair (Format.writes_bytes h.hash)
  exact Format.writes_pair (Format.writes_bytes h.encodedPayload) record.codec.writes_format

end EncryptedTransaction

namespace EncryptedRawTransaction

/-- The parts of a raw record are no longer than a length field can say. -/
structure Fits (record : EncryptedRawTransaction) : Prop where
  hash : record.hash.bytes.length < Bytes.count 8
  encryptedPayload : record.encryptedPayload.length < Bytes.count 8
  encryptedKey : record.encryptedKey.length < Bytes.count 8
  nonce : record.nonce.length < Bytes.count 8

theorem lawful_format : EncryptedRawTransaction.format.Lawful := by
  refine Format.lawful_map ?_ fun _ => rfl
  apply Format.lawful_pair MessageHash.lawful_format
  apply Format.lawful_pair Format.lawful_bytes
  apply Format.lawful_pair Format.lawful_bytes
  exact Format.lawful_pair Format.lawful_bytes PublicKey.lawful_format

theorem Fits.writes {record : EncryptedRawTransaction} (h : record.Fits) :
    EncryptedRawTransaction.format.Writes record := by
  apply Format.writes_map
  apply Format.writes_pair (Format.writes_bytes h.hash)
  apply Format.writes_pair (Format.writes_bytes h.encryptedPayload)
  apply Format.writes_pair (Format.writes_bytes h.encryptedKey)
  exact Format.writes_pair (Format.writes_bytes h.nonce) record.sender.writes_format

end EncryptedRawTransaction

end Layout

/-- Whatever calls are made to an empty store of either kind of record, the tree shows the same
results and runs the same callbacks as the store in memory. No part of a record may outgrow the 64
bits that its length has in the layout. -/
theorem TreeStore.shows_same_of_run :
    (∀ calls : List (StoreCall EncryptedTransaction),
      (∀ call ∈ calls, ∀ record, call.record? = some record → record.Fits) →
      (RecordStore.run ({} : TreeStore EncryptedTransaction) calls).1 =
        (RecordStore.run ({} : Store EncryptedTransaction) calls).1) ∧
    ∀ calls : List (StoreCall EncryptedRawTransaction),
      (∀ call ∈ calls, ∀ record, call.record? = some record → record.Fits) →
      (RecordStore.run ({} : TreeStore EncryptedRawTransaction) calls).1 =
        (RecordStore.run ({} : Store EncryptedRawTransaction) calls).1 := by
  constructor
  · intro calls hfits
    have hagree := Store.mirrors_empty.run EncryptedTransaction.lawful_format
      fun call hcall record hrecord => (hfits call hcall record hrecord).writes
    exact hagree.shown
  · intro calls hfits
    have hagree := Store.mirrors_empty.run EncryptedRawTransaction.lawful_format
      fun call hcall record hrecord => (hfits call hcall record hrecord).writes
    exact hagree.shown

/-! ## Two records under one hash -/

/-- A record is kept, another one with its hash is refused and then put in its place, and what is
left is forgotten twice. -/
def callsAbout (first second : ρ) (hash absent : MessageHash) : List (StoreCall ρ) :=
  [.saveThen first, .saveThen second, .find [hash, absent, hash], .update second, .retrieve hash,
    .delete hash, .delete hash, .retrieve hash]

/-- What is seen of these calls. -/
def outcomesAbout (first second : ρ) (hash : MessageHash) : List (StoreOutcome ρ) :=
  [{ result := .ok .done, calledBack := true },
    { result := .error (.alreadyExists hash.toBase64) },
    { result := .ok (.records [first, first]) },
    { result := .ok .done },
    { result := .ok (.record (some second)) },
    { result := .ok .done },
    { result := .ok .done },
    { result := .ok (.record none) }]

theorem record_callsAbout {first second : ρ} {hash absent : MessageHash} :
    ∀ call ∈ callsAbout first second hash absent, ∀ record, call.record? = some record →
      record = first ∨ record = second := by
  simp [callsAbout, StoreCall.record?]

/-- A record with a hash that is shorter than a digest. -/
def slip (content : UInt8) : EncryptedTransaction := ⟨⟨[1]⟩, [content], .json⟩

/-- A record of a message to be sent later, with such a hash. -/
def rawSlip (content : UInt8) : EncryptedRawTransaction :=
  ⟨⟨[1]⟩, [content], [content], [], ⟨List.replicate 32 content, List.length_replicate⟩⟩

theorem fits_slip (content : UInt8) : (slip content).Fits := by
  constructor <;> exact (by decide : 1 < Bytes.count 8)

theorem fits_rawSlip (content : UInt8) : (rawSlip content).Fits := by
  constructor
  · exact (by decide : 1 < Bytes.count 8)
  · exact (by decide : 1 < Bytes.count 8)
  · exact (by decide : 1 < Bytes.count 8)
  · exact (by decide : 0 < Bytes.count 8)

/-- A tree refuses the second of two records under one hash, without running its callback, lists a
record as often as it is asked for, and takes the second one as an update. -/
theorem TreeStore.shows_same_of_run_slips :
    (RecordStore.run ({} : TreeStore EncryptedTransaction)
      (callsAbout (slip 1) (slip 2) ⟨[1]⟩ ⟨[2]⟩)).1 = outcomesAbout (slip 1) (slip 2) ⟨[1]⟩ ∧
    (RecordStore.run ({} : TreeStore EncryptedRawTransaction)
      (callsAbout (rawSlip 1) (rawSlip 2) ⟨[1]⟩ ⟨[2]⟩)).1 =
        outcomesAbout (rawSlip 1) (rawSlip 2) ⟨[1]⟩ := by
  obtain ⟨hslips, hrawSlips⟩ := TreeStore.shows_same_of_run
  constructor
  · rw [hslips]
    · rfl
    · intro call hcall record hrecord
      rcases record_callsAbout call hcall record hrecord with rfl | rfl <;> exact fits_slip _
  · rw [hrawSlips]
    · rfl
    · intro call hcall record hrecord
      rcases record_callsAbout call hcall record hrecord with rfl | rfl <;> exact fits_rawSlip _

end SealedExchange
