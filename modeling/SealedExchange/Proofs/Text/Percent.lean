import SealedExchange.Proofs.Text.Cutting
import SealedExchange.Proofs.Text.Utf8
import SealedExchange.Text.Percent

/-! # Reading percent-encoding back

An escape is read as the byte that it was written for. As long as the percent sign is not kept, no
byte that is kept looks like the start of an escape, so decoding gives the bytes back.
-/

namespace SealedExchange.Text.Percent

/-! ## Escapes -/

theorem hexValue?_hexDigit : ∀ n < 16, hexValue? (hexDigit (.ofNat n)) = some (.ofNat n) := by
  decide

theorem isUnreserved_hexDigit : ∀ n < 16, isUnreserved (hexDigit (.ofNat n)) = true := by
  decide

theorem escape_eq (b : UInt8) :
    escape b = [0x25, hexDigit (.ofNat (b.toNat / 16)), hexDigit (.ofNat (b.toNat % 16))] := by
  have hb : b.toNat < 256 := b.toNat_lt
  have hhigh : b / 16 = .ofNat (b.toNat / 16) := by
    apply UInt8.toNat_inj.mp
    simp only [UInt8.toNat_div, UInt8.toNat_ofNat', UInt8.reduceToNat]
    omega
  have hlow : b % 16 = .ofNat (b.toNat % 16) := by
    apply UInt8.toNat_inj.mp
    simp only [UInt8.toNat_mod, UInt8.toNat_ofNat', UInt8.reduceToNat]
    omega
  rw [escape, hhigh, hlow]

theorem decodeBytes_cons {b : UInt8} (hb : b ≠ 0x25) (rest : Bytes) :
    decodeBytes (b :: rest) = b :: decodeBytes rest := by
  match rest with
  | [] | [_] => rfl
  | high :: low :: rest => rw [decodeBytes, if_neg hb]

theorem decodeBytes_escape (b : UInt8) (rest : Bytes) :
    decodeBytes (escape b ++ rest) = b :: decodeBytes rest := by
  have hb : b.toNat < 256 := b.toNat_lt
  have hvalue : 16 * UInt8.ofNat (b.toNat / 16) + .ofNat (b.toNat % 16) = b := by
    apply UInt8.toNat_inj.mp
    simp only [UInt8.toNat_add, UInt8.toNat_mul, UInt8.toNat_ofNat', UInt8.reduceToNat]
    omega
  rw [escape_eq, List.cons_append, List.cons_append, List.singleton_append, decodeBytes,
    if_pos rfl, hexValue?_hexDigit _ (by omega), hexValue?_hexDigit _ (by omega)]
  exact congrArg (· :: decodeBytes rest) hvalue

theorem decodeBytes_encodeBytes {keeps : UInt8 → Bool} (hkeeps : keeps 0x25 = false)
    (bytes : Bytes) : decodeBytes (encodeBytes keeps bytes) = bytes := by
  induction bytes with
  | nil => rfl
  | cons b bytes ih =>
    rw [encodeBytes] at ih ⊢
    rw [List.flatMap_cons]
    split
    next hkept =>
      have hb : b ≠ 0x25 := by
        rintro rfl
        rw [hkeeps] at hkept
        cases hkept
      rw [List.singleton_append, decodeBytes_cons hb, ih]
    next => rw [decodeBytes_escape, ih]

/-! ## What is written -/

/-- Nothing but unreserved bytes and percent signs is written. -/
theorem forall_mem_encodeBytes {test : UInt8 → Prop} (hkept : ∀ b, isUnreserved b = true → test b)
    (hpercent : test 0x25) (bytes : Bytes) : ∀ b ∈ encodeBytes isUnreserved bytes, test b := by
  have hdigit (n : Nat) (hn : n < 16) : test (hexDigit (.ofNat n)) :=
    hkept _ (isUnreserved_hexDigit n hn)
  induction bytes with
  | nil => simp [encodeBytes]
  | cons b bytes ih =>
    have hb : b.toNat < 256 := b.toNat_lt
    rw [encodeBytes] at ih ⊢
    rw [List.flatMap_cons, List.forall_mem_append]
    refine ⟨?_, ih⟩
    split
    next h => simpa using hkept b h
    next =>
      rw [escape_eq]
      simp only [List.forall_mem_cons]
      exact ⟨hpercent, hdigit _ (by omega), hdigit _ (by omega), by simp⟩

theorem lt_of_isUnreserved {b : UInt8} (hb : isUnreserved b = true) : b < 0x80 := by
  have hsmall : ∀ n < 256, isUnreserved (.ofNat n) = true → UInt8.ofNat n < 0x80 := by
    decide +kernel
  have hlt := hsmall b.toNat b.toNat_lt
  rw [UInt8.ofNat_toNat] at hlt
  exact hlt hb

theorem encode_encode (text : String) :
    Utf8.encode (encode text) = encodeBytes isUnreserved (Utf8.encode text) :=
  Utf8.encode_ofBytes (forall_mem_encodeBytes (fun _ => lt_of_isUnreserved) (by decide) _)

/-- A property of the percent sign and of what stands for itself everywhere is one of every
character of an escaped text. -/
theorem forall_mem_encode {test : Char → Prop}
    (hkept : ∀ n < 128, isUnreserved (.ofNat n) = true → test (.ofNat n)) (hpercent : test '%')
    (text : String) : ∀ c ∈ (encode text).toList, test c := by
  rw [encode, encodeWith, String.toList_ofList, List.forall_mem_map]
  refine @forall_mem_encodeBytes (fun b => test (.ofNat b.toNat)) (fun b hb => ?_) hpercent _
  have hlt := UInt8.lt_iff_toNat_lt.mp (lt_of_isUnreserved hb)
  exact hkept b.toNat hlt (by rwa [UInt8.ofNat_toNat])

theorem notMem_encode {d : Char}
    (hkept : ∀ n < 128, isUnreserved (.ofNat n) = true → Char.ofNat n ≠ d) (hpercent : '%' ≠ d)
    (text : String) : d ∉ (encode text).toList := by
  have hall : ∀ c ∈ (encode text).toList, c ≠ d := forall_mem_encode hkept hpercent text
  exact fun hmem => hall d hmem rfl

theorem isSolid_encode (text : String) : IsSolid (encode text) :=
  forall_mem_encode (by decide +kernel) (by decide) text

/-- What is decoded from an escaped text is the text. -/
theorem decode_encode (text : String) : decode (encode text) = .ok text := by
  rw [decode, encode_encode, decodeBytes_encodeBytes (by decide), Utf8.decode_encode]

theorem encode_ne_empty {text : String} (htext : text ≠ "") : encode text ≠ "" := by
  intro hempty
  have hdecode := decode_encode text
  rw [hempty] at hdecode
  exact htext (Except.ok.inj hdecode).symm

end SealedExchange.Text.Percent
