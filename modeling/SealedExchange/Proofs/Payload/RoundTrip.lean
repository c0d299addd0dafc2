import SealedExchange.Payload.Codec
import SealedExchange.Proofs.Binary.Laws
import SealedExchange.Proofs.Json.Rendered
import SealedExchange.Proofs.Sorted.Map
import SealedExchange.Proofs.Sorted.Set

/-! # Decoding undoes encoding

Either codec gives back the payload whose bytes it has made, as long as the payload is well formed.
-/

namespace SealedExchange

/-! ## The binary layout -/

section Layout

open Binary

theorem PublicKey.lawful_format : PublicKey.format.Lawful :=
  Format.lawful_map (Format.lawful_exactly _) fun _ => rfl

theorem MessageHash.lawful_format : MessageHash.format.Lawful :=
  Format.lawful_map Format.lawful_bytes fun _ => rfl

theorem SecurityHash.lawful_format : SecurityHash.format.Lawful :=
  Format.lawful_map Format.lawful_bytes fun _ => rfl

theorem PrivacyMode.lawful_format : PrivacyMode.format.Lawful := Format.lawful_alternative _

theorem lawful_affectedFormat : affectedFormat.Lawful :=
  Format.lawful_map
    (Format.lawful_list (Format.lawful_pair MessageHash.lawful_format SecurityHash.lawful_format))
    SortedMap.ofList_entries

theorem lawful_keySetFormat : keySetFormat.Lawful :=
  Format.lawful_map (Format.lawful_list PublicKey.lawful_format) SortedSet.ofList_elems

theorem Payload.lawful_format : Payload.format.Lawful := by
  refine Format.lawful_map ?_ fun _ => rfl
  apply Format.lawful_pair PublicKey.lawful_format
  apply Format.lawful_pair Format.lawful_bytes
  apply Format.lawful_pair Format.lawful_bytes
  apply Format.lawful_pair (Format.lawful_list Format.lawful_bytes)
  apply Format.lawful_pair Format.lawful_bytes
  apply Format.lawful_pair (Format.lawful_list PublicKey.lawful_format)
  apply Format.lawful_pair PrivacyMode.lawful_format
  apply Format.lawful_pair lawful_affectedFormat
  apply Format.lawful_pair Format.lawful_bytes
  exact Format.lawful_pair lawful_keySetFormat (Format.lawful_option Format.lawful_bytes)

/-- The parts of a payload are no longer than a length field can say. -/
structure Payload.Fits (p : Payload) : Prop where
  cipherText : p.cipherText.length < Bytes.count 8
  nonce : p.nonce.length < Bytes.count 8
  boxes : p.boxes.length < Bytes.count 8 ∧ ∀ box ∈ p.boxes, box.length < Bytes.count 8
  recipientNonce : p.recipientNonce.length < Bytes.count 8
  keys : p.keys.length < Bytes.count 8
  affected : p.affected.entries.length < Bytes.count 8 ∧ ∀ entry ∈ p.affected.entries,
    entry.1.bytes.length < Bytes.count 8 ∧ entry.2.bytes.length < Bytes.count 8
  execHash : p.execHash.length < Bytes.count 8
  mandatory : p.mandatory.elems.length < Bytes.count 8
  groupId : ∀ id, p.groupId = some id → id.length < Bytes.count 8

theorem PublicKey.writes_format (key : PublicKey) : PublicKey.format.Writes key := ⟨_, rfl⟩

theorem PrivacyMode.writes_format (mode : PrivacyMode) : PrivacyMode.format.Writes mode := by
  cases mode <;> exact ⟨_, rfl⟩

/-- A payload whose parts are not too long has a binary layout. -/
theorem Payload.Fits.exists_encode {p : Payload} (h : p.Fits) :
    ∃ bytes, Codec.bincode.encode p = .ok bytes := by
  have hclaims : affectedFormat.Writes p.affected :=
    Format.writes_list h.affected.1 fun entry hentry =>
      Format.writes_pair (Format.writes_bytes (h.affected.2 entry hentry).1)
        (Format.writes_bytes (h.affected.2 entry hentry).2)
  have hmandatory : keySetFormat.Writes p.mandatory :=
    Format.writes_list h.mandatory fun key _ => key.writes_format
  have hwrites : Payload.format.Writes p := by
    apply Format.writes_map
    apply Format.writes_pair p.sender.writes_format
    apply Format.writes_pair (Format.writes_bytes h.cipherText)
    apply Format.writes_pair (Format.writes_bytes h.nonce)
    apply Format.writes_pair
      (Format.writes_list h.boxes.1 fun box hbox => Format.writes_bytes (h.boxes.2 box hbox))
    apply Format.writes_pair (Format.writes_bytes h.recipientNonce)
    apply Format.writes_pair (Format.writes_list h.keys fun key _ => key.writes_format)
    apply Format.writes_pair p.mode.writes_format
    apply Format.writes_pair hclaims
    apply Format.writes_pair (Format.writes_bytes h.execHash)
    apply Format.writes_pair hmandatory
    exact Format.writes_option fun id hid => Format.writes_bytes (h.groupId id hid)
  obtain ⟨bytes, hbytes⟩ := hwrites
  exact ⟨bytes, mapError_eq_ok_iff.mpr hbytes⟩

end Layout

/-! ## The JSON document -/

namespace Payload.Json

open SealedExchange.Json SealedExchange.Json.Reader

theorem reads_key (k : PublicKey) : Reads key (Value.bytes k.bytes).render k := by
  have hbytes : Reads (exactly keyLength byte) (Value.bytes k.bytes).render k.bytes := by
    have hread := reads_exactly reads_byteValue k.bytes
    rw [List.map_id', k.length_eq] at hread
    exact hread
  refine ⟨hbytes.starts, fun rest hrest => ?_⟩
  rw [key, bind_apply (hbytes.reads rest hrest), dif_pos k.length_eq]
  rfl

theorem reads_keys (ks : List PublicKey) :
    Reads (list key) (Value.array (ks.map fun k => .bytes k.bytes)).render ks := by
  simpa using reads_list reads_key ks

theorem reads_keySet (ks : SortedSet PublicKey) :
    Reads keySet (Value.array (ks.elems.map fun k => .bytes k.bytes)).render ks := by
  refine ⟨(reads_keys ks.elems).starts, fun rest hrest => ?_⟩
  rw [keySet, bind_apply ((reads_keys ks.elems).reads rest hrest), SortedSet.ofList_elems]
  rfl

theorem reads_byteString (bs : Bytes) : Reads bytes (Value.bytes bs).render bs :=
  Reader.reads_bytes bs

theorem isPlain_name (mode : PrivacyMode) : IsPlainText mode.name := by
  cases mode <;> decide

theorem ofName?_name (mode : PrivacyMode) : PrivacyMode.ofName? mode.name = some mode := by
  cases mode <;> decide

theorem reads_mode (m : PrivacyMode) : Reads mode (Value.string m.name).render m := by
  rw [Value.render, renderString_of_plain (isPlain_name m)]
  refine ⟨⟨0x22, _, rfl, by decide, by decide⟩, fun rest _ => ?_⟩
  rw [List.cons_append, List.cons_append, List.append_assoc, List.singleton_append, mode,
    bind_apply (peek_cons (by decide) _)]
  change ((advance >>= _ : Reader PrivacyMode) (0x22 :: _)) = _
  rw [bind_apply (advance_cons _ _), bind_apply (stringBody_ascii (isPlain_name m) rest),
    modeOfName, ofName?_name]
  rfl

theorem reads_affected : Reads affected (Value.object []).render .empty :=
  ⟨⟨0x7b, _, rfl, by decide, by decide⟩, fun _ _ => rfl⟩

theorem reads_groupId (group : Option Bytes) :
    Reads (option bytes) (Value.option .bytes group).render group :=
  reads_option reads_byteString (fun _ => ⟨_, render_array _⟩) group

theorem once_none {α : Type} {name : String} {value : Reader α} {text : Bytes} {a : α}
    (h : Reads value text a) (set : Option α → Partial) (rest : Bytes) (hrest : Delimited rest) :
    (do let found ← once name none value; pure (set found) : Reader Partial)
      (0x3a :: (text ++ rest)) = .ok (set (some a), rest) :=
  once_of_apply (h.reads rest hrest) set

/-- All fields of a payload without claims, read. -/
def whole (p : Payload) : Partial where
  sender := some p.sender
  cipherText := some p.cipherText
  nonce := some p.nonce
  boxes := some p.boxes
  recipientNonce := some p.recipientNonce
  keys := some p.keys
  mode := some p.mode
  affected := some .empty
  execHash := some p.execHash
  mandatory := some p.mandatory
  groupId := some p.groupId

/-- The texts of the members of a payload. -/
def memberTexts (p : Payload) : List Bytes :=
  [renderString "sender_key" ++ 0x3a :: (Value.bytes p.sender.bytes).render,
    renderString "cipher_text" ++ 0x3a :: (Value.bytes p.cipherText).render,
    renderString "cipher_text_nonce" ++ 0x3a :: (Value.bytes p.nonce).render,
    renderString "recipient_boxes" ++ 0x3a :: (Value.array (p.boxes.map Value.bytes)).render,
    renderString "recipient_nonce" ++ 0x3a :: (Value.bytes p.recipientNonce).render,
    renderString "recipient_keys" ++
      0x3a :: (Value.array (p.keys.map fun k => .bytes k.bytes)).render,
    renderString "privacy_mode" ++ 0x3a :: (Value.string p.mode.name).render,
    renderString "affected_contract_transactions" ++ 0x3a :: (Value.object []).render,
    renderString "exec_hash" ++ 0x3a :: (Value.bytes p.execHash).render,
    renderString "mandatory_recipients" ++
      0x3a :: (Value.array (p.mandatory.elems.map fun k => .bytes k.bytes)).render,
    renderString "privacy_group_id" ++ 0x3a :: (Value.option .bytes p.groupId).render]

theorem render_document (p : Payload) :
    (document p).render = 0x7b :: (commaSeparated (memberTexts p) ++ [0x7d]) := rfl

theorem reads_boxes (boxes : List Bytes) :
    Reads (list bytes) (Value.array (boxes.map Value.bytes)).render boxes := by
  simpa only [List.map_id'] using reads_list reads_byteString boxes

theorem members_document (p : Payload) : Members member {} (memberTexts p) (whole p) := by
  apply Members.cons (by decide) (once_none (reads_key p.sender) _)
  apply Members.cons (by decide) (once_none (reads_byteString p.cipherText) _)
  apply Members.cons (by decide) (once_none (reads_byteString p.nonce) _)
  apply Members.cons (by decide) (once_none (reads_boxes p.boxes) _)
  apply Members.cons (by decide) (once_none (reads_byteString p.recipientNonce) _)
  apply Members.cons (by decide) (once_none (reads_keys p.keys) _)
  apply Members.cons (by decide) (once_none (reads_mode p.mode) _)
  apply Members.cons (by decide) (once_none reads_affected _)
  apply Members.cons (by decide) (once_none (reads_byteString p.execHash) _)
  apply Members.cons (by decide) (once_none (reads_keySet p.mandatory) _)
  apply Members.cons (by decide) (once_none (reads_groupId p.groupId) _)
  exact .nil _

theorem complete_whole {p : Payload} (haffected : p.affected = .empty) (rest : Bytes) :
    complete (whole p) rest = .ok (p, rest) := by
  change Except.ok (({ p with affected := .empty } : Payload), rest) = _
  rw [← haffected]

theorem object_memberTexts {p : Payload} (haffected : p.affected = .empty) (rest : Bytes) :
    object (commaSeparated (memberTexts p) ++ 0x7d :: rest) = .ok (p, 0x7d :: rest) := by
  have hread : bounded (fun fuel => members member fuel true ({} : Partial))
      (commaSeparated (memberTexts p) ++ 0x7d :: rest) = .ok (whole p, 0x7d :: rest) :=
    bounded_members (members_document p) blank_nil rest
  rw [object, bind_apply hread, complete_whole haffected]

theorem reader_document {p : Payload} (haffected : p.affected = .empty) :
    reader (document p).render = .ok (p, []) := by
  rw [render_document, reader, record, bind_apply (peek_cons (by decide) _)]
  exact inObject_of_body (object_memberTexts haffected [])

/-- What was written as a document is read back. -/
theorem run_reader_of_encode {p : Payload} {bytes : Bytes} (hencode : encode p = .ok bytes) :
    run reader bytes = .ok p := by
  rw [encode] at hencode
  split at hencode
  next hempty =>
    cases hencode
    have haffected : p.affected = .empty :=
      SortedMap.eq_of_entries_eq (List.isEmpty_iff.mp hempty)
    rw [run, reader_document haffected]
    rfl
  next => cases hencode

end Payload.Json

namespace Codec

theorem parse_of_encode {codec : Codec} {p : Payload} {bytes : Bytes}
    (hencode : codec.encode p = .ok bytes) : codec.parse bytes = .ok p := by
  cases codec with
  | bincode =>
    have hwrite := mapError_eq_ok_iff.mp hencode
    exact mapError_eq_ok_iff.mpr (Binary.Format.decode_of_write Payload.lawful_format hwrite)
  | json =>
    have hwrite := mapError_eq_ok_iff.mp hencode
    exact mapError_eq_ok_iff.mpr (Payload.Json.run_reader_of_encode hwrite)

theorem decode_of_encode {codec : Codec} {p : Payload} {bytes : Bytes} (hcheck : p.check = .ok ())
    (hencode : codec.encode p = .ok bytes) : codec.decode bytes = .ok p := by
  rw [decode, parse_of_encode hencode, ok_bind, Payload.checked, hcheck]
  rfl

end Codec

end SealedExchange
