import SealedExchange.Proofs.Json.Results
import SealedExchange.Proofs.Payload.RoundTrip
import SealedExchange.Proofs.Payload.WellFormed

/-! # Encoding what was decoded

Bytes that are decoded need not be the bytes that the payload is encoded as: the members of a
document may stand in any order, and claims and mandatory recipients may be unordered or repeated.
The payload has an encoding all the same, and either encoding decodes to it again.
-/

namespace SealedExchange

/-! ## The binary layout -/

section Layout

open Binary

theorem PublicKey.rewritable_format : PublicKey.format.Rewritable :=
  Format.rewritable_map (Format.rewritable_exactly _) fun _ h => h

theorem MessageHash.rewritable_format : MessageHash.format.Rewritable :=
  Format.rewritable_map Format.rewritable_bytes fun _ h => h

theorem SecurityHash.rewritable_format : SecurityHash.format.Rewritable :=
  Format.rewritable_map Format.rewritable_bytes fun _ h => h

theorem PrivacyMode.rewritable_format : PrivacyMode.format.Rewritable :=
  fun _ mode _ _ => mode.writes_format

theorem rewritable_affectedFormat : affectedFormat.Rewritable := by
  refine Format.rewritable_map (Format.rewritable_list
    (Format.rewritable_pair MessageHash.rewritable_format SecurityHash.rewritable_format)) ?_
  intro entries hwrites
  obtain ⟨hlength, hall⟩ := Format.writes_list_iff.mp hwrites
  -- Claims that are repeated or out of order are dropped or moved, and none is added.
  have hle := SortedMap.length_ofList_le entries
  exact Format.writes_list (Nat.lt_of_le_of_lt hle hlength) fun entry hentry =>
    hall entry (SortedMap.mem_of_mem_ofList hentry)

theorem rewritable_keySetFormat : keySetFormat.Rewritable := by
  refine Format.rewritable_map (Format.rewritable_list PublicKey.rewritable_format) ?_
  intro keys hwrites
  obtain ⟨hlength, hall⟩ := Format.writes_list_iff.mp hwrites
  have hle := SortedSet.length_ofList_le keys
  exact Format.writes_list (Nat.lt_of_le_of_lt hle hlength) fun key _ => key.writes_format

theorem Payload.rewritable_format : Payload.format.Rewritable := by
  refine Format.rewritable_map ?_ fun _ h => h
  apply Format.rewritable_pair PublicKey.rewritable_format
  apply Format.rewritable_pair Format.rewritable_bytes
  apply Format.rewritable_pair Format.rewritable_bytes
  apply Format.rewritable_pair (Format.rewritable_list Format.rewritable_bytes)
  apply Format.rewritable_pair Format.rewritable_bytes
  apply Format.rewritable_pair (Format.rewritable_list PublicKey.rewritable_format)
  apply Format.rewritable_pair PrivacyMode.rewritable_format
  apply Format.rewritable_pair rewritable_affectedFormat
  apply Format.rewritable_pair Format.rewritable_bytes
  exact Format.rewritable_pair rewritable_keySetFormat
    (Format.rewritable_option Format.rewritable_bytes)

end Layout

/-! ## The JSON document -/

namespace Payload.Json

open SealedExchange.Json SealedExchange.Json.Reader

theorem yields_affected : Yields affected (· = .empty) := by
  refine yields_bind fun next => ?_
  split
  · refine Yields.inObject (yields_bind fun name => ?_)
    cases name with
    | none => exact yields_pure rfl
    | some name => exact yields_refuse _
  · exact yields_unexpected _

/-- The claims are empty as far as they have been read. -/
def Claimless (p : Partial) : Prop := ∀ claims, p.affected = some claims → claims = .empty

theorem Claimless.yields_member {p : Partial} (hp : Claimless p) (name : String) :
    Yields (member p name) Claimless := by
  unfold member
  split
  case h_8 =>
    exact (yields_affected.once _ p.affected).bind fun _ hclaims => yields_pure hclaims
  -- No other member touches the claims.
  all_goals exact yields_bind fun _ => yields_pure hp

theorem Claimless.yields_complete {p : Partial} (hp : Claimless p) :
    Yields (complete p) (·.affected = .empty) := by
  refine yields_bind fun _ => yields_bind fun _ => yields_bind fun _ => yields_bind fun _ => ?_
  refine yields_bind fun _ => yields_bind fun _ => yields_bind fun _ => ?_
  refine (yields_required _ hp).bind fun claims hclaims => ?_
  exact yields_bind fun _ => yields_bind fun _ => yields_pure hclaims

theorem yields_object : Yields object (·.affected = .empty) := by
  have hmembers : Yields (bounded fun fuel => members member fuel true ({} : Partial)) Claimless :=
    yields_bounded fun fuel =>
      yields_members (fun _ name hp => hp.yields_member name) fuel true nofun
  exact hmembers.bind fun _ hp => hp.yields_complete

theorem yields_fields : Yields fields (·.affected = .empty) := by
  refine yields_bind fun _ => yields_bind fun _ => yields_bind fun _ => yields_bind fun _ => ?_
  refine yields_bind fun _ => yields_bind fun _ => yields_bind fun _ => ?_
  refine (yields_affected.itemAt 7 _).bind fun claims hclaims => ?_
  exact yields_bind fun _ => yields_bind fun _ => yields_bind fun _ => yields_pure hclaims

theorem yields_reader : Yields reader (·.affected = .empty) := yields_fields.record yields_object _

/-- A payload that was read from a document can be written as one. -/
theorem exists_encode_of_run {p : Payload} {bytes : Bytes} (hrun : run reader bytes = .ok p) :
    ∃ encoded, encode p = .ok encoded := by
  have hclaims : p.affected = .empty := yields_reader.of_run hrun
  refine ⟨(document p).render, if_pos ?_⟩
  rw [hclaims]
  rfl

end Payload.Json

/-! ## Both codecs -/

namespace Codec

theorem exists_encode_of_parse {codec : Codec} {p : Payload} {bytes : Bytes}
    (hparse : codec.parse bytes = .ok p) : ∃ encoded, codec.encode p = .ok encoded := by
  cases codec with
  | bincode =>
    obtain ⟨⟨q, rest⟩, hread, rfl⟩ := map_eq_ok_iff.mp (mapError_eq_ok_iff.mp hparse)
    obtain ⟨encoded, hwrite⟩ := Payload.rewritable_format bytes q rest hread
    exact ⟨encoded, mapError_eq_ok_iff.mpr hwrite⟩
  | json =>
    obtain ⟨encoded, hwrite⟩ :=
      Payload.Json.exists_encode_of_run (mapError_eq_ok_iff.mp hparse)
    exact ⟨encoded, mapError_eq_ok_iff.mpr hwrite⟩

theorem parse_of_decode {codec : Codec} {p : Payload} {bytes : Bytes}
    (hdecode : codec.decode bytes = .ok p) : codec.parse bytes = .ok p := by
  obtain ⟨q, hparse, hchecked⟩ := bind_eq_ok_iff.mp hdecode
  obtain ⟨_, rfl⟩ := Payload.checked_eq_ok_iff.mp (mapError_eq_ok_iff.mp hchecked)
  exact hparse

/-- What follows the binary layout of a payload is ignored. -/
theorem decode_append_of_encode {p : Payload} {bytes : Bytes} (hcheck : p.check = .ok ())
    (hencode : bincode.encode p = .ok bytes) (rest : Bytes) :
    bincode.decode (bytes ++ rest) = .ok p := by
  have hread := Payload.lawful_format p bytes rest (mapError_eq_ok_iff.mp hencode)
  have hparse : bincode.parse (bytes ++ rest) = .ok p :=
    mapError_eq_ok_iff.mpr (map_eq_ok_iff.mpr ⟨(p, rest), hread, rfl⟩)
  rw [decode, hparse, ok_bind, Payload.checked, hcheck]
  rfl

/-- Decoding undoes encoding for every payload that passes its check, and in the binary layout
whatever follows. Any bytes that decode at all decode to a payload that passes its check and has
an encoding, from which it is decoded again. -/
theorem encode_decode_round_trip (codec : Codec) :
    (∀ p bytes, p.check = .ok () → codec.encode p = .ok bytes →
      codec.decode bytes = .ok p ∧
        (codec = .bincode → ∀ rest, codec.decode (bytes ++ rest) = .ok p)) ∧
    ∀ bytes p, codec.decode bytes = .ok p → p.check = .ok () ∧
      ∃ encoded, codec.encode p = .ok encoded ∧ codec.decode encoded = .ok p := by
  constructor
  · intro p bytes hcheck hencode
    refine ⟨decode_of_encode hcheck hencode, ?_⟩
    rintro rfl rest
    exact decode_append_of_encode hcheck hencode rest
  · intro bytes p hdecode
    have hcheck : p.check = .ok () := Payload.check_eq_ok_iff.mpr (wellFormed_of_decode hdecode)
    obtain ⟨encoded, hencode⟩ := exists_encode_of_parse (parse_of_decode hdecode)
    exact ⟨hcheck, encoded, hencode, decode_of_encode hcheck hencode⟩

/-! ## A payload that was written out of order -/

/-- A payload with two claims. -/
def claiming : Payload where
  sender := ⟨List.replicate 32 1, rfl⟩
  cipherText := [10, 11, 12]
  nonce := [20]
  boxes := [[30, 31], [32]]
  recipientNonce := [21]
  keys := [⟨List.replicate 32 3, rfl⟩, ⟨List.replicate 32 2, rfl⟩]
  mode := .partyProtection
  affected := .ofList [(⟨[40]⟩, ⟨[50]⟩), (⟨[41]⟩, ⟨[51, 52]⟩)]
  execHash := []
  mandatory := .empty
  groupId := some [60]

/-- The payload without its claims. -/
def silent : Payload := { claiming with affected := .empty }

/-- The layout of the payload with claims, given the layout of its claims. -/
def laidOut (claims : Bytes) : Bytes :=
  let length (n : Nat) : Bytes := Bytes.ofNatLE 8 n
  List.replicate 32 1 ++ length 3 ++ [10, 11, 12] ++ length 1 ++ [20] ++
    length 2 ++ length 2 ++ [30, 31] ++ length 1 ++ [32] ++ length 1 ++ [21] ++
    length 2 ++ List.replicate 32 3 ++ List.replicate 32 2 ++ Bytes.ofNatLE 4 1 ++
    claims ++ length 0 ++ length 0 ++ [1] ++ length 1 ++ [60]

/-- The claims in the order of their hashes. -/
def claimsInOrder : Bytes :=
  let length (n : Nat) : Bytes := Bytes.ofNatLE 8 n
  length 2 ++ length 1 ++ [40] ++ length 1 ++ [50] ++ length 1 ++ [41] ++ length 2 ++ [51, 52]

/-- The claims the other way around, with a repeated hash. -/
def claimsOutOfOrder : Bytes :=
  let length (n : Nat) : Bytes := Bytes.ofNatLE 8 n
  length 3 ++ length 1 ++ [41] ++ length 0 ++ length 1 ++ [41] ++ length 2 ++ [51, 52] ++
    length 1 ++ [40] ++ length 1 ++ [50]

theorem encode_decode_round_trip_claiming :
    bincode.encode claiming = .ok (laidOut claimsInOrder) ∧
      (∀ rest, bincode.decode (laidOut claimsInOrder ++ rest) = .ok claiming) ∧
      laidOut claimsOutOfOrder ≠ laidOut claimsInOrder ∧
      bincode.decode (laidOut claimsOutOfOrder) = .ok claiming ∧
      (∃ encoded, bincode.encode claiming = .ok encoded ∧
        bincode.decode encoded = .ok claiming) ∧
      ∃ document, json.encode silent = .ok document ∧ json.decode document = .ok silent := by
  have hcheck : claiming.check = .ok () := by decide +kernel
  have hencode : bincode.encode claiming = .ok (laidOut claimsInOrder) := by decide +kernel
  have hdecode : bincode.decode (laidOut claimsOutOfOrder) = .ok claiming := by decide +kernel
  obtain ⟨hforth, hback⟩ := encode_decode_round_trip .bincode
  have hdocument : json.encode silent = .ok (Payload.Json.document silent).render := rfl
  have hread := ((encode_decode_round_trip .json).1 silent _ (by decide +kernel) hdocument).1
  exact ⟨hencode, (hforth claiming _ hcheck hencode).2 rfl, by decide +kernel, hdecode,
    (hback _ claiming hdecode).2, _, hdocument, hread⟩

end Codec

end SealedExchange
