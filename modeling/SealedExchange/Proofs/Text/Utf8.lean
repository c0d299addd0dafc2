import SealedExchange.Proofs.Success
import SealedExchange.Text.Utf8

/-! # Reading UTF-8 back

What is decoded from the encoding of a text is the text. A character takes one to four bytes, by its
size, and the bytes that it takes are accepted and give the character back.
-/

namespace SealedExchange.Text.Utf8

variable {b0 b1 b2 b3 : UInt8} {start : Nat} {rest : Bytes}

theorem isContinuation_iff {b : UInt8} :
    isContinuation b = true ↔ 0x80 ≤ b.toNat ∧ b.toNat < 0xc0 := by
  simp [isContinuation, UInt8.le_iff_toNat_le, UInt8.lt_iff_toNat_lt]

/-! ## Sequences of each length -/

theorem decodeFrom_one (hb0 : b0.toNat < 0x80) : decodeFrom start (b0 :: rest) =
    (decodeFrom (start + 1) rest).map (Char.ofNat b0.toNat :: ·) := by
  rw [decodeFrom.eq_def]
  exact if_pos (UInt8.lt_iff_toNat_lt.mpr hb0)

theorem decodeFrom_two (hb0 : 0xc2 ≤ b0.toNat ∧ b0.toNat < 0xe0)
    (hb1 : isContinuation b1 = true) : decodeFrom start (b0 :: b1 :: rest) =
      (decodeFrom (start + 2) rest).map
        (Char.ofNat (b0.toNat % 32 * 64 + payload b1) :: ·) := by
  have hfirst : ¬b0 < 0x80 ∧ ¬b0 < 0xc2 ∧ b0 < 0xe0 := by
    simp only [UInt8.lt_iff_toNat_lt, UInt8.reduceToNat]
    omega
  rw [decodeFrom.eq_def]
  simp only [if_neg hfirst.1, if_neg hfirst.2.1, if_pos hfirst.2.2, if_pos hb1]

theorem decodeFrom_three (hb0 : 0xe0 ≤ b0.toNat ∧ b0.toNat < 0xf0)
    (hb1 : secondOfThree b0 b1 = true) (hb2 : isContinuation b2 = true) :
    decodeFrom start (b0 :: b1 :: b2 :: rest) =
      (decodeFrom (start + 3) rest).map
        (Char.ofNat (b0.toNat % 16 * 4096 + payload b1 * 64 + payload b2) :: ·) := by
  have hfirst : ¬b0 < 0x80 ∧ ¬b0 < 0xc2 ∧ ¬b0 < 0xe0 ∧ b0 < 0xf0 := by
    simp only [UInt8.lt_iff_toNat_lt, UInt8.reduceToNat]
    omega
  rw [decodeFrom.eq_def]
  simp only [if_neg hfirst.1, if_neg hfirst.2.1, if_neg hfirst.2.2.1, if_pos hfirst.2.2.2,
    if_pos hb1, if_pos hb2]

theorem decodeFrom_four (hb0 : 0xf0 ≤ b0.toNat ∧ b0.toNat < 0xf5)
    (hb1 : secondOfFour b0 b1 = true) (hb2 : isContinuation b2 = true)
    (hb3 : isContinuation b3 = true) : decodeFrom start (b0 :: b1 :: b2 :: b3 :: rest) =
      (decodeFrom (start + 4) rest).map
        (Char.ofNat (b0.toNat % 8 * 262144 + payload b1 * 4096 + payload b2 * 64 +
          payload b3) :: ·) := by
  have hfirst : ¬b0 < 0x80 ∧ ¬b0 < 0xc2 ∧ ¬b0 < 0xe0 ∧ ¬b0 < 0xf0 ∧ b0 < 0xf5 := by
    simp only [UInt8.lt_iff_toNat_lt, UInt8.reduceToNat]
    omega
  rw [decodeFrom.eq_def]
  simp only [if_neg hfirst.1, if_neg hfirst.2.1, if_neg hfirst.2.2.1, if_neg hfirst.2.2.2.1,
    if_pos hfirst.2.2.2.2, if_pos hb1, if_pos hb2, if_pos hb3]

/-! ## The bytes of a character -/

theorem toNat_lead (n width base : Nat) (hfits : width + base ≤ 256) (hwidth : 0 < width) :
    (UInt8.ofNat (n % width + base)).toNat = n % width + base := by
  have hlt := Nat.mod_lt n hwidth
  rw [UInt8.toNat_ofNat', Nat.mod_eq_of_lt (by omega)]

/-- A continuation byte is accepted and gives its bits back. -/
theorem continuation (n : Nat) : isContinuation (.ofNat (n % 0x40 + 0x80)) = true ∧
    payload (.ofNat (n % 0x40 + 0x80)) = n % 0x40 := by
  have hbyte := toNat_lead n 0x40 0x80 (by decide) (by decide)
  rw [isContinuation_iff, payload, hbyte]
  omega

theorem secondOfThree_of (hcontinues : isContinuation b1 = true)
    (hleast : b0.toNat = 0xe0 → 0xa0 ≤ b1.toNat) (hgreatest : b0.toNat = 0xed → b1.toNat < 0xa0) :
    secondOfThree b0 b1 = true := by
  have hbounds := isContinuation_iff.mp hcontinues
  rw [secondOfThree]
  simp only [UInt8.le_iff_toNat_le, UInt8.lt_iff_toNat_lt, ← UInt8.toNat_inj, UInt8.reduceToNat]
  split
  next heq => simp [hleast heq, hbounds.2]
  next =>
    split
    next heq => simp [hgreatest heq, hbounds.1]
    next => exact hcontinues

theorem secondOfFour_of (hcontinues : isContinuation b1 = true)
    (hleast : b0.toNat = 0xf0 → 0x90 ≤ b1.toNat) (hgreatest : b0.toNat = 0xf4 → b1.toNat < 0x90) :
    secondOfFour b0 b1 = true := by
  have hbounds := isContinuation_iff.mp hcontinues
  rw [secondOfFour]
  simp only [UInt8.le_iff_toNat_le, UInt8.lt_iff_toNat_lt, ← UInt8.toNat_inj, UInt8.reduceToNat]
  split
  next heq => simp [hleast heq, hbounds.2]
  next =>
    split
    next heq => simp [hgreatest heq, hbounds.1]
    next => exact hcontinues

theorem decodeFrom_encodeChar (c : Char) (start : Nat) (rest : Bytes) : ∃ next,
    decodeFrom start (String.utf8EncodeChar c ++ rest) = (decodeFrom next rest).map (c :: ·) := by
  have hvalid : c.toNat < 0xd800 ∨ 0xdfff < c.toNat ∧ c.toNat < 0x110000 := c.valid
  have hchar : Char.ofNat c.toNat = c := Char.ofNat_toNat c
  rw [String.utf8EncodeChar]
  change ∃ next, decodeFrom start ((if c.toNat ≤ 0x7f then [UInt8.ofNat c.toNat]
    else if c.toNat ≤ 0x7ff then
      [.ofNat (c.toNat / 64 % 0x20 + 0xc0), .ofNat (c.toNat % 0x40 + 0x80)]
    else if c.toNat ≤ 0xffff then
      [.ofNat (c.toNat / 4096 % 0x10 + 0xe0), .ofNat (c.toNat / 64 % 0x40 + 0x80),
        .ofNat (c.toNat % 0x40 + 0x80)]
    else
      [.ofNat (c.toNat / 262144 % 0x08 + 0xf0), .ofNat (c.toNat / 4096 % 0x40 + 0x80),
        .ofNat (c.toNat / 64 % 0x40 + 0x80), .ofNat (c.toNat % 0x40 + 0x80)]) ++ rest) = _
  generalize c.toNat = n at hvalid hchar
  obtain ⟨hlast, hlow⟩ := continuation n
  obtain ⟨hmiddle, hmid⟩ := continuation (n / 64)
  obtain ⟨hsecond, hhigh⟩ := continuation (n / 4096)
  split
  next hone =>
    have hlead : (UInt8.ofNat n).toNat = n := by
      rw [UInt8.toNat_ofNat', Nat.mod_eq_of_lt (by omega)]
    refine ⟨start + 1, ?_⟩
    rw [List.singleton_append, decodeFrom_one (by omega), hlead, hchar]
  next hone =>
    split
    next htwo =>
      have hlead := toNat_lead (n / 64) 0x20 0xc0 (by decide) (by decide)
      refine ⟨start + 2, ?_⟩
      rw [List.cons_append, List.singleton_append, decodeFrom_two (by omega) hlast, hlead, hlow,
        show (n / 64 % 0x20 + 0xc0) % 32 * 64 + n % 0x40 = n by omega, hchar]
    next htwo =>
      split
      next hthree =>
        have hlead := toNat_lead (n / 4096) 0x10 0xe0 (by decide) (by decide)
        have hnext := toNat_lead (n / 64) 0x40 0x80 (by decide) (by decide)
        refine ⟨start + 3, ?_⟩
        rw [List.cons_append, List.cons_append, List.singleton_append,
          decodeFrom_three (by omega) (secondOfThree_of hmiddle (by omega) (by omega)) hlast,
          hlead, hmid, hlow,
          show (n / 4096 % 0x10 + 0xe0) % 16 * 4096 + n / 64 % 0x40 * 64 + n % 0x40 = n by omega,
          hchar]
      next hthree =>
        have hlead := toNat_lead (n / 262144) 0x08 0xf0 (by decide) (by decide)
        have hnext := toNat_lead (n / 4096) 0x40 0x80 (by decide) (by decide)
        refine ⟨start + 4, ?_⟩
        rw [List.cons_append, List.cons_append, List.cons_append, List.singleton_append,
          decodeFrom_four (by omega) (secondOfFour_of hsecond (by omega) (by omega)) hmiddle hlast,
          hlead, hhigh, hmid, hlow,
          show (n / 262144 % 0x08 + 0xf0) % 8 * 262144 + n / 4096 % 0x40 * 4096 +
            n / 64 % 0x40 * 64 + n % 0x40 = n by omega, hchar]

/-- What is decoded from the encoding of a text is the text. -/
theorem decode_encode (text : String) : decode (encode text) = .ok text := by
  have hall : ∀ (chars : List Char) (start : Nat), decodeFrom start (encodeChars chars) =
      .ok chars := by
    intro chars
    induction chars with
    | nil => intro start; rfl
    | cons c chars ih =>
      intro start
      obtain ⟨next, hnext⟩ := decodeFrom_encodeChar c start (encodeChars chars)
      rw [encodeChars, List.flatMap_cons, ← encodeChars, hnext, ih, map_ok]
  rw [decode, encode, hall, map_ok, String.ofList_toList]

/-! ## ASCII -/

theorem utf8EncodeChar_of_lt {c : Char} (hlt : c.toNat < 0x80) :
    String.utf8EncodeChar c = [UInt8.ofNat c.toNat] := by
  have hle : c.toNat ≤ 0x7f := Nat.le_of_lt_succ hlt
  simp [String.utf8EncodeChar, hle]

/-- The characters of ASCII bytes are encoded as these bytes. -/
theorem encode_ofBytes {bytes : Bytes} (hascii : ∀ b ∈ bytes, b < 0x80) :
    encode (String.ofList (bytes.map fun b => Char.ofNat b.toNat)) = bytes := by
  rw [encode, String.toList_ofList, encodeChars]
  induction bytes with
  | nil => rfl
  | cons b rest ih =>
    have hb : b.toNat < 0x80 := UInt8.lt_iff_toNat_lt.mp (hascii b List.mem_cons_self)
    have hchar : (Char.ofNat b.toNat).toNat = b.toNat := by
      rw [Char.ofNat, dif_pos (.inl (by omega))]
      rfl
    rw [List.map_cons, List.flatMap_cons, ih fun other hother => hascii other (.tail _ hother),
      utf8EncodeChar_of_lt (by omega), hchar, UInt8.ofNat_toNat, List.singleton_append]

end SealedExchange.Text.Utf8
