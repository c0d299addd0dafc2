import SealedExchange.Base64
import SealedExchange.Proofs.Text.Cutting
import SealedExchange.Proofs.Text.Utf8

/-! # Reading base64 back

What is decoded from the base64 text of a byte string is the byte string. Three bytes are four
numbers below 64, of which each has a symbol of its own, and no group but the last is padded.
-/

namespace SealedExchange.Base64

/-! ## The alphabet -/

theorem value?_symbol : ∀ n < 64, value? (symbol n) = some n := by
  decide

theorem symbol_ne_padding : ∀ n < 64, symbol n ≠ padding := by
  decide

theorem valueAt_symbol {n : Nat} (hn : n < 64) (offset : Nat) :
    valueAt offset (symbol n) = .ok n := by
  rw [valueAt, value?_symbol n hn]

/-- Nothing but symbols and padding is written. -/
theorem forall_mem_encodeBytes {test : UInt8 → Prop} (hsymbol : ∀ n < 64, test (symbol n))
    (hpadding : test padding) (bytes : Bytes) : ∀ b ∈ encodeBytes bytes, test b := by
  fun_induction encodeBytes bytes with
  | case1 a b c rest n ih =>
    have ha := a.toNat_lt
    have hb := b.toNat_lt
    have hc := c.toNat_lt
    simp only [List.forall_mem_cons]
    exact ⟨hsymbol _ (by omega), hsymbol _ (by omega), hsymbol _ (by omega), hsymbol _ (by omega),
      ih⟩
  | case2 a b n =>
    have ha := a.toNat_lt
    have hb := b.toNat_lt
    simp only [List.forall_mem_cons]
    exact ⟨hsymbol _ (by omega), hsymbol _ (by omega), hsymbol _ (by omega), hpadding, by simp⟩
  | case3 a =>
    have ha := a.toNat_lt
    simp only [List.forall_mem_cons]
    exact ⟨hsymbol _ (by omega), hsymbol _ (by omega), hpadding, hpadding, by simp⟩
  | case4 => simp

/-- A property of all symbols and of padding is one of every character of a base64 text. -/
theorem forall_mem_encode {test : Char → Prop} (hsymbol : ∀ n < 64, test (.ofNat (symbol n).toNat))
    (hpadding : test (.ofNat padding.toNat)) (bytes : Bytes) :
    ∀ c ∈ (encode bytes).toList, test c := by
  rw [encode, String.toList_ofList, List.forall_mem_map]
  exact @forall_mem_encodeBytes (fun b => test (.ofNat b.toNat)) hsymbol hpadding bytes

theorem length_encodeBytes (bytes : Bytes) : (encodeBytes bytes).length % 4 = 0 := by
  fun_induction encodeBytes bytes with
  | case1 a b c rest n ih =>
    simp only [List.length_cons]
    omega
  | case2 | case3 | case4 => simp

theorem encodeBytes_ne_nil {bytes : Bytes} (hne : bytes ≠ []) : encodeBytes bytes ≠ [] := by
  fun_cases encodeBytes bytes with
  | case1 | case2 | case3 => exact List.cons_ne_nil _ _
  | case4 => exact absurd rfl hne

/-! ## Groups -/

theorem bytesOfGroup_eq {a b c : UInt8} {n : Nat}
    (hn : n = a.toNat * 65536 + b.toNat * 256 + c.toNat) :
    bytesOfGroup (n / 262144) (n / 4096 % 64) (n / 64 % 64) (n % 64) = [a, b, c] := by
  have ha := a.toNat_lt
  have hb := b.toNat_lt
  have hc := c.toNat_lt
  have hfirst : n / 262144 * 4 + n / 4096 % 64 / 16 = a.toNat := by omega
  have hsecond : n / 4096 % 64 % 16 * 16 + n / 64 % 64 / 4 = b.toNat := by omega
  have hthird : n / 64 % 64 % 4 * 64 + n % 64 = c.toNat := by omega
  rw [bytesOfGroup, hfirst, hsecond, hthird, UInt8.ofNat_toNat, UInt8.ofNat_toNat,
    UInt8.ofNat_toNat]

/-- Four symbols are read as three bytes, whether or not more groups follow. -/
theorem decodeGroups_group {offset : Nat} {a b c d : Nat} (ha : a < 64) (hb : b < 64) (hc : c < 64)
    (hd : d < 64) {more bytes : Bytes} (hmore : decodeGroups (offset + 4) more = .ok bytes) :
    decodeGroups offset (symbol a :: symbol b :: symbol c :: symbol d :: more) =
      .ok (bytesOfGroup a b c d ++ bytes) := by
  cases more with
  | nil =>
    cases hmore
    rw [decodeGroups, decodeLast]
    · simp only [valueAt_symbol ha, valueAt_symbol hb, valueAt_symbol hc, valueAt_symbol hd,
        ok_bind, if_neg (symbol_ne_padding c hc), if_neg (symbol_ne_padding d hd),
        List.append_nil]
    · simp
  | cons e more =>
    rw [decodeGroups]
    simp only [valueAt_symbol ha, valueAt_symbol hb, valueAt_symbol hc, valueAt_symbol hd, ok_bind,
      hmore]

theorem decodeGroups_encodeBytes (offset : Nat) (bytes : Bytes) :
    decodeGroups offset (encodeBytes bytes) = .ok bytes := by
  fun_induction encodeBytes bytes generalizing offset with
  | case1 a b c rest n ih =>
    have ha := a.toNat_lt
    have hb := b.toNat_lt
    have hc := c.toNat_lt
    rw [decodeGroups_group (by omega) (by omega) (by omega) (by omega) (ih (offset + 4)),
      bytesOfGroup_eq rfl]
    rfl
  | case2 a b n =>
    have ha := a.toNat_lt
    have hb := b.toNat_lt
    have hlast : n % 64 < 64 := by omega
    have hspare : n % 64 % 4 = 0 := by omega
    have hfirst : n / 4096 * 4 + n / 64 % 64 / 16 = a.toNat := by omega
    have hsecond : n / 64 % 64 % 16 * 16 + n % 64 / 4 = b.toNat := by omega
    rw [decodeGroups, decodeLast]
    · simp only [valueAt_symbol (show n / 4096 < 64 by omega),
        valueAt_symbol (show n / 64 % 64 < 64 by omega), valueAt_symbol hlast, ok_bind,
        if_neg (symbol_ne_padding _ hlast), if_true, hspare, ne_eq, not_true_eq_false, if_false,
        bytesOfGroup, hfirst, hsecond, UInt8.ofNat_toNat]
      rfl
    · simp
  | case3 a =>
    have ha := a.toNat_lt
    have hspare : a.toNat % 4 * 16 % 16 = 0 := by omega
    have hfirst : a.toNat / 4 * 4 + a.toNat % 4 * 16 / 16 = a.toNat := by omega
    rw [decodeGroups, decodeLast]
    · simp only [valueAt_symbol (show a.toNat / 4 < 64 by omega),
        valueAt_symbol (show a.toNat % 4 * 16 < 64 by omega), ok_bind, if_true, hspare, ne_eq,
        not_true_eq_false, if_false, bytesOfGroup, hfirst, UInt8.ofNat_toNat]
      rfl
    · simp
  | case4 => rfl

theorem decodeBytes_encodeBytes (bytes : Bytes) : decodeBytes (encodeBytes bytes) = .ok bytes := by
  rw [decodeBytes]
  split
  next last hlast =>
    have hlength := length_encodeBytes bytes
    rw [if_neg (by omega), decodeGroups_encodeBytes]
  next hnone =>
    rw [List.getLast?_eq_none_iff] at hnone
    by_cases hbytes : bytes = []
    · rw [hbytes]
    · exact absurd hnone (encodeBytes_ne_nil hbytes)

theorem encode_encode (bytes : Bytes) : Text.Utf8.encode (encode bytes) = encodeBytes bytes := by
  refine Text.Utf8.encode_ofBytes fun b hb => ?_
  revert b
  exact forall_mem_encodeBytes (by decide) (by decide) bytes

/-- What is decoded from the base64 text of a byte string is the byte string. -/
theorem decode_encode (bytes : Bytes) : decode (encode bytes) = .ok bytes := by
  rw [decode, encode_encode, decodeBytes_encodeBytes]

/-- No blank stands in a base64 text. -/
theorem trim_encode (bytes : Bytes) : Text.trim (encode bytes) = encode bytes := by
  have hsolid : Text.IsSolid (encode bytes) := forall_mem_encode (by decide) (by decide) bytes
  exact Text.trim_of_isSolid hsolid

end SealedExchange.Base64
