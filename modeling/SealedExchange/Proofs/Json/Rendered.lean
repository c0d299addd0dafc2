import Mathlib.Data.List.Forall2
import SealedExchange.Json.Reader
import SealedExchange.Proofs.Text.Utf8

/-! # Reading what was rendered

A typed reader takes the text of a value back for the value. Inside a list or an object a value is
followed by a comma, a closing bracket or a blank, which is where a number ends; `Reads` states that
a reader consumes a text in front of any of these and nothing else. Blanks may stand in front of the
items of a list, the members of an object and the closing brackets, so what is said about lists and
objects holds of compact texts and of texts with one entry a line.
-/

namespace SealedExchange.Json

open Text.Utf8 (utf8EncodeChar_of_lt)

/-- A character that a string shows as itself: ASCII, printable, no quote and no backslash. -/
def IsPlain (c : Char) : Prop := 0x20 ≤ c.toNat ∧ c.toNat < 0x7f ∧ c ≠ '"' ∧ c ≠ '\\'

instance : DecidablePred IsPlain := fun c =>
  inferInstanceAs (Decidable (0x20 ≤ c.toNat ∧ c.toNat < 0x7f ∧ c ≠ '"' ∧ c ≠ '\\'))

/-- A text of plain characters. -/
def IsPlainText (text : String) : Prop := ∀ c ∈ text.toList, IsPlain c

instance : DecidablePred IsPlainText := fun text =>
  List.decidableBAll IsPlain text.toList

theorem ofNat_toNat_of_lt {c : Char} (hlt : c.toNat < 0x80) :
    Char.ofNat (UInt8.ofNat c.toNat).toNat = c := by
  have hmod : c.toNat % 256 = c.toNat := Nat.mod_eq_of_lt (by omega)
  simp [hmod]

theorem decodeFrom_ascii (start : Nat) {chars : List Char} (hlt : ∀ c ∈ chars, c.toNat < 0x80) :
    Text.Utf8.decodeFrom start (chars.map fun c => UInt8.ofNat c.toNat) = .ok chars := by
  induction chars generalizing start with
  | nil => rfl
  | cons c chars ih =>
    have hc := hlt c List.mem_cons_self
    have hbyte : UInt8.ofNat c.toNat < 0x80 := by
      rw [UInt8.lt_iff_toNat_lt]
      simp
      omega
    have hrest := ih (start + 1) fun d hd => hlt d (.tail _ hd)
    rw [List.map_cons, Text.Utf8.decodeFrom.eq_def]
    simp only [if_pos hbyte, hrest, map_ok, ofNat_toNat_of_lt hc]

theorem decode_ascii {text : String} (hlt : ∀ c ∈ text.toList, c.toNat < 0x80) :
    Text.Utf8.decode (ascii text) = .ok text := by
  rw [Text.Utf8.decode, ascii, decodeFrom_ascii 0 hlt, map_ok, String.ofList_toList]

theorem escapedChar_of_isPlain {c : Char} (hc : IsPlain c) :
    escapedChar c = [UInt8.ofNat c.toNat] := by
  obtain ⟨hlow, hhigh, hquote, hslash⟩ := hc
  have hne : ∀ d : Char, d.toNat < 0x20 → c ≠ d := by
    rintro d hd rfl
    omega
  rw [escapedChar, if_neg hquote, if_neg hslash, if_neg (hne _ (by decide)),
    if_neg (hne _ (by decide)), if_neg (hne _ (by decide)), if_neg (hne _ (by decide)),
    if_neg (hne _ (by decide)), if_neg (by omega), utf8EncodeChar_of_lt (by omega)]

theorem renderString_of_plain {text : String} (hplain : IsPlainText text) :
    renderString text = 0x22 :: ascii text ++ [0x22] := by
  have hchars : text.toList.flatMap escapedChar = ascii text := by
    rw [IsPlainText] at hplain
    rw [ascii]
    generalize text.toList = chars at hplain
    induction chars with
    | nil => rfl
    | cons c chars ih =>
      rw [List.flatMap_cons, List.map_cons, escapedChar_of_isPlain (hplain c List.mem_cons_self),
        ih fun d hd => hplain d (.tail _ hd)]
      rfl
  rw [renderString, hchars]

namespace Reader

variable {α β σ : Type}

theorem bind_apply {x : Reader α} {f : α → Reader β} {input rest : Bytes} {a : α}
    (hx : x input = .ok (a, rest)) : (x >>= f) input = f a rest := by
  change (x input >>= fun p => f p.1 p.2) = _
  rw [hx]
  rfl

/-- Blanks between two tokens. -/
def Blank (gap : Bytes) : Prop := ∀ b ∈ gap, isBlank b = true

theorem blank_nil : Blank [] := fun _ hb => absurd hb List.not_mem_nil

theorem peek_blank {gap : Bytes} (hgap : Blank gap) (rest : Bytes) :
    peek (gap ++ rest) = peek rest := by
  rw [peek, peek, List.dropWhile_append_of_pos hgap]

theorem peek_cons {b : UInt8} (hb : isBlank b = false) (rest : Bytes) :
    peek (b :: rest) = .ok (some b, b :: rest) := by
  simp [peek, hb]

theorem peek_gap {gap : Bytes} (hgap : Blank gap) {b : UInt8} (hb : isBlank b = false)
    (rest : Bytes) : peek (gap ++ b :: rest) = .ok (some b, b :: rest) := by
  rw [peek_blank hgap, peek_cons hb]

/-! ## Strings -/

theorem stringBytes_ascii {chars : List Char} (hplain : ∀ c ∈ chars, IsPlain c) (rest : Bytes)
    {fuel : Nat} (hfuel : chars.length < fuel) :
    stringBytes fuel ((chars.map fun c => UInt8.ofNat c.toNat) ++ 0x22 :: rest) =
      .ok (chars.map fun c => UInt8.ofNat c.toNat, rest) := by
  induction chars generalizing fuel with
  | nil =>
    obtain ⟨fuel, rfl⟩ := Nat.exists_eq_succ_of_ne_zero (Nat.ne_zero_of_lt hfuel)
    rfl
  | cons c chars ih =>
    obtain ⟨fuel, rfl⟩ := Nat.exists_eq_succ_of_ne_zero (Nat.ne_zero_of_lt hfuel)
    obtain ⟨hlow, hhigh, hquote, hslash⟩ := hplain c List.mem_cons_self
    have hnat : (UInt8.ofNat c.toNat).toNat = c.toNat := by
      simp
      omega
    have hbyte : ∀ d : Char, d.toNat < 0x80 → c ≠ d →
        UInt8.ofNat c.toNat ≠ UInt8.ofNat d.toNat := by
      intro d hd hne heq
      have hback := congrArg (fun b : UInt8 => Char.ofNat b.toNat) heq
      exact hne (by simpa only [ofNat_toNat_of_lt (show c.toNat < 0x80 by omega),
        ofNat_toNat_of_lt hd] using hback)
    have hcontrol : ¬UInt8.ofNat c.toNat < 0x20 := by
      rw [UInt8.lt_iff_toNat_lt, hnat]
      exact Nat.not_lt.mpr hlow
    have hrest := ih (fun d hd => hplain d (.tail _ hd)) (Nat.lt_of_succ_lt_succ hfuel)
    rw [List.map_cons, List.cons_append, stringBytes]
    simp only [show UInt8.ofNat c.toNat ≠ 0x22 from hbyte '"' (by decide) hquote,
      show UInt8.ofNat c.toNat ≠ 0x5c from hbyte '\\' (by decide) hslash, if_neg hcontrol, hrest,
      if_false, ok_bind]

/-- A string of plain characters is read up to its closing quote. -/
theorem stringBody_ascii {text : String} (hplain : IsPlainText text) (rest : Bytes) :
    stringBody (ascii text ++ 0x22 :: rest) = .ok (text, rest) := by
  have hbytes : bounded stringBytes (ascii text ++ 0x22 :: rest) = .ok (ascii text, rest) := by
    apply stringBytes_ascii hplain rest
    rw [ascii, List.length_append, List.length_map]
    exact Nat.lt_succ_of_le (Nat.le_add_right _ _)
  have hdecode : Text.Utf8.decode (ascii text) = .ok text :=
    decode_ascii fun c hc => by
      have := (hplain c hc).2.1
      omega
  rw [stringBody, bind_apply hbytes, hdecode]
  rfl

/-! ## Single steps -/

theorem look_cons (b : UInt8) (rest : Bytes) : look (b :: rest) = .ok (some b, b :: rest) := rfl

theorem advance_cons (b : UInt8) (rest : Bytes) : advance (b :: rest) = .ok ((), rest) := rfl

theorem placedBy_of_ok {place : Bytes → Bytes} {r : Reader α} {input rest : Bytes} {a : α}
    (hr : r input = .ok (a, rest)) : placedBy place r input = .ok (a, rest) := by
  rw [placedBy, hr, mapError_ok]

theorem nextItem_end {gap : Bytes} (hgap : Blank gap) (first : Bool) (rest : Bytes) :
    nextItem first (gap ++ 0x5d :: rest) = .ok (false, 0x5d :: rest) := by
  rw [nextItem, bind_apply (peek_gap hgap (by decide) rest)]
  rfl

theorem nextItem_first {gap : Bytes} (hgap : Blank gap) {b : UInt8} (hblank : isBlank b = false)
    (hend : b ≠ 0x5d) (rest : Bytes) :
    nextItem true (gap ++ b :: rest) = .ok (true, b :: rest) := by
  rw [nextItem, bind_apply (peek_gap hgap hblank rest)]
  simp only [if_neg hend, Bool.not_true, Bool.false_eq_true, and_false, if_false, if_true]
  rfl

theorem nextItem_comma {gap : Bytes} (hgap : Blank gap) {b : UInt8} (hblank : isBlank b = false)
    (hend : b ≠ 0x5d) (rest : Bytes) :
    nextItem false (0x2c :: (gap ++ b :: rest)) = .ok (true, b :: rest) := by
  rw [nextItem, bind_apply (peek_cons (by decide) _)]
  change ((advance >>= _ : Reader Bool) (0x2c :: (gap ++ b :: rest))) = _
  rw [bind_apply (advance_cons _ _), bind_apply (peek_gap hgap hblank rest)]
  simp only [if_neg hend]
  rfl

theorem endList_end (rest : Bytes) : endList (0x5d :: rest) = .ok ((), rest) := by
  rw [endList, bind_apply (peek_cons (by decide) rest)]
  rfl

theorem colon_colon (rest : Bytes) : colon (0x3a :: rest) = .ok ((), rest) := by
  rw [colon, bind_apply (peek_cons (by decide) rest)]
  rfl

theorem endObject_end (rest : Bytes) : endObject (0x7d :: rest) = .ok ((), rest) := by
  rw [endObject, bind_apply (peek_cons (by decide) rest)]
  rfl

/-! ## Values in front of a delimiter -/

/-- What a value inside a list or an object ends in front of: a comma, a closing bracket or a
blank. -/
def delimiters : Bytes := [0x2c, 0x5d, 0x7d, 0x20, 0x0a, 0x09, 0x0d]

/-- What follows a value inside a list or an object. -/
def Delimited (rest : Bytes) : Prop := ∃ b ∈ delimiters, ∃ tail, rest = b :: tail

theorem mem_delimiters_of_isBlank {b : UInt8} (hb : isBlank b = true) : b ∈ delimiters := by
  simp only [isBlank, Bool.or_eq_true, beq_iff_eq] at hb
  obtain ((rfl | rfl) | rfl) | rfl := hb <;> decide

/-- A reader takes a text for a value. The text does not start like the end of a list. -/
structure Reads (r : Reader α) (text : Bytes) (a : α) : Prop where
  starts : ∃ b tail, text = b :: tail ∧ isBlank b = false ∧ b ≠ 0x5d
  reads : ∀ rest, Delimited rest → r (text ++ rest) = .ok (a, rest)

/-- Blanks stand in front of what a reader takes for a value. -/
def Laid (r : Reader α) (text : Bytes) (a : α) : Prop :=
  ∃ gap token, Blank gap ∧ text = gap ++ token ∧ Reads r token a

theorem Reads.laid {r : Reader α} {text : Bytes} {a : α} (h : Reads r text a) : Laid r text a :=
  ⟨[], text, blank_nil, rfl, h⟩

theorem forall₂_laid {r : Reader α} {texts : List Bytes} {as : List α}
    (h : List.Forall₂ (Reads r) texts as) : List.Forall₂ (Laid r) texts as :=
  h.imp fun _ _ h => h.laid

theorem delimited_more (texts : List Bytes) {gap : Bytes} (hgap : Blank gap) {last : UInt8}
    (rest : Bytes) (hlast : last = 0x5d ∨ last = 0x7d) :
    Delimited (texts.flatMap (0x2c :: ·) ++ (gap ++ last :: rest)) := by
  cases texts with
  | cons text texts => exact ⟨0x2c, by decide, _, rfl⟩
  | nil =>
    cases gap with
    | cons b gap => exact ⟨b, mem_delimiters_of_isBlank (hgap b List.mem_cons_self), _, rfl⟩
    | nil => exact ⟨last, by rcases hlast with rfl | rfl <;> decide, rest, rfl⟩

theorem commaSeparated_cons (text : Bytes) (texts : List Bytes) :
    commaSeparated (text :: texts) = text ++ texts.flatMap (0x2c :: ·) := by
  induction texts generalizing text with
  | nil => simp [commaSeparated]
  | cons next texts ih =>
    rw [commaSeparated, ih, List.flatMap_cons, List.cons_append]
    exact List.cons_ne_nil next texts

theorem length_le_flatMap_comma (texts : List Bytes) :
    texts.length ≤ (texts.flatMap (0x2c :: ·)).length := by
  induction texts with
  | nil => exact Nat.le_refl 0
  | cons text texts ih =>
    simp only [List.flatMap_cons, List.length_append, List.length_cons]
    omega

theorem length_le_commaSeparated (texts : List Bytes) :
    texts.length ≤ (commaSeparated texts).length + 1 := by
  cases texts with
  | nil => exact Nat.zero_le _
  | cons text texts =>
    have hmore := length_le_flatMap_comma texts
    rw [commaSeparated_cons, List.length_append, List.length_cons]
    omega

/-! ## Lists -/

theorem nextItem_starts {r : Reader α} {token : Bytes} {a : α} (h : Reads r token a) {gap : Bytes}
    (hgap : Blank gap) (rest : Bytes) :
    nextItem true (gap ++ (token ++ rest)) = .ok (true, token ++ rest) := by
  obtain ⟨b, tail, rfl, hblank, hend⟩ := h.starts
  exact nextItem_first hgap hblank hend (tail ++ rest)

theorem nextItem_comma_starts {r : Reader α} {token : Bytes} {a : α} (h : Reads r token a)
    {gap : Bytes} (hgap : Blank gap) (rest : Bytes) :
    nextItem false (0x2c :: (gap ++ (token ++ rest))) = .ok (true, token ++ rest) := by
  obtain ⟨b, tail, rfl, hblank, hend⟩ := h.starts
  exact nextItem_comma hgap hblank hend (tail ++ rest)

theorem items_more {item : Reader α} {texts : List Bytes} {as : List α}
    (h : List.Forall₂ (Laid item) texts as) {close : Bytes} (hclose : Blank close) (rest : Bytes)
    {fuel : Nat} (hfuel : texts.length < fuel) :
    items item fuel false (texts.flatMap (0x2c :: ·) ++ (close ++ 0x5d :: rest)) =
      .ok (as, 0x5d :: rest) := by
  obtain ⟨fuel, rfl⟩ := Nat.exists_eq_succ_of_ne_zero (Nat.ne_zero_of_lt hfuel)
  -- Each turn reads a comma and an item, so the fuel has to outlast the items and the end.
  induction h generalizing fuel with
  | nil =>
    rw [List.flatMap_nil, List.nil_append, items, bind_apply (nextItem_end hclose false rest)]
    rfl
  | @cons text a texts as hitem hmore ih =>
    obtain ⟨fuel, rfl⟩ :=
      Nat.exists_eq_succ_of_ne_zero (Nat.ne_zero_of_lt (Nat.lt_of_succ_lt_succ hfuel))
    obtain ⟨gap, token, hgap, rfl, hitem⟩ := hitem
    have hread := hitem.reads _ (delimited_more texts hclose rest (.inl rfl))
    have hrest := ih fuel (Nat.lt_of_succ_lt_succ hfuel)
    rw [List.flatMap_cons, List.cons_append, List.cons_append, List.append_assoc,
      List.append_assoc, items, bind_apply (nextItem_comma_starts hitem hgap _), if_pos rfl,
      bind_apply hread, bind_apply hrest]
    rfl

theorem items_commaSeparated {item : Reader α} {texts : List Bytes} {as : List α}
    (h : List.Forall₂ (Laid item) texts as) {close : Bytes} (hclose : Blank close) (rest : Bytes)
    {fuel : Nat} (hfuel : texts.length < fuel) :
    items item fuel true (commaSeparated texts ++ (close ++ 0x5d :: rest)) =
      .ok (as, 0x5d :: rest) := by
  obtain ⟨fuel, rfl⟩ := Nat.exists_eq_succ_of_ne_zero (Nat.ne_zero_of_lt hfuel)
  cases h with
  | nil =>
    rw [commaSeparated, List.nil_append, items, bind_apply (nextItem_end hclose true rest)]
    rfl
  | @cons text a texts as hitem hmore =>
    obtain ⟨gap, token, hgap, rfl, hitem⟩ := hitem
    have hread := hitem.reads _ (delimited_more texts hclose rest (.inl rfl))
    have hrest := items_more hmore hclose rest (Nat.lt_of_succ_lt_succ hfuel)
    rw [commaSeparated_cons, List.append_assoc, List.append_assoc, items,
      bind_apply (nextItem_starts hitem hgap _), if_pos rfl, bind_apply hread, bind_apply hrest]
    rfl

theorem inList_of_body {expected : String} {body : Reader α} {text rest : Bytes} {a : α}
    (hbody : body text = .ok (a, 0x5d :: rest)) :
    inList expected body (0x5b :: text) = .ok (a, rest) := by
  rw [inList, bind_apply (peek_cons (by decide) text)]
  change ((advance >>= _ : Reader α) (0x5b :: text)) = _
  rw [bind_apply (advance_cons _ _), bind_apply (placedBy_of_ok hbody),
    bind_apply (endList_end rest)]
  rfl

/-- A list is read item by item, whatever follows its end. -/
theorem list_array {item : Reader α} {texts : List Bytes} {as : List α}
    (h : List.Forall₂ (Laid item) texts as) {close : Bytes} (hclose : Blank close) (rest : Bytes) :
    list item (0x5b :: (commaSeparated texts ++ (close ++ 0x5d :: rest))) = .ok (as, rest) := by
  refine inList_of_body (items_commaSeparated h hclose rest ?_)
  have hle := length_le_commaSeparated texts
  rw [List.length_append, List.length_append, List.length_cons]
  omega

theorem itemsFrom_more {expected : String} {item : Reader α} {texts : List Bytes} {as : List α}
    (h : List.Forall₂ (Reads item) texts as) (rest : Bytes) {total : Nat}
    (htotal : texts.length < total) :
    itemsFrom expected item total texts.length (texts.flatMap (0x2c :: ·) ++ 0x5d :: rest) =
      .ok (as, 0x5d :: rest) := by
  induction h with
  | nil => rfl
  | @cons text a texts as hitem hmore ih =>
    have hplace : decide (total - (texts.length + 1) = 0) = false := by
      rw [List.length_cons] at htotal
      rw [decide_eq_false_iff_not]
      omega
    have hread := hitem.reads _ (delimited_more texts blank_nil rest (.inl rfl))
    have hitemAt : itemAt (total - (texts.length + 1)) expected item
        (0x2c :: (text ++ (texts.flatMap (0x2c :: ·) ++ 0x5d :: rest))) =
        .ok (a, texts.flatMap (0x2c :: ·) ++ 0x5d :: rest) := by
      have hnext (more : Bytes) :
          nextItem false (0x2c :: (text ++ more)) = .ok (true, text ++ more) :=
        nextItem_comma_starts hitem blank_nil more
      rw [itemAt, hplace, bind_apply (hnext _), if_pos rfl]
      exact hread
    rw [List.flatMap_cons, List.cons_append, List.cons_append, List.append_assoc,
      List.length_cons, itemsFrom, bind_apply hitemAt, bind_apply (ih (Nat.lt_of_succ_lt htotal))]
    rfl

/-- A list of a fixed length is read item by item, whatever follows its end. -/
theorem exactly_array {item : Reader α} {texts : List Bytes} {as : List α}
    (h : List.Forall₂ (Reads item) texts as) (rest : Bytes) :
    exactly texts.length item (0x5b :: (commaSeparated texts ++ 0x5d :: rest)) =
      .ok (as, rest) := by
  apply inList_of_body
  cases h with
  | nil => rfl
  | @cons text a texts as hitem hmore =>
    have hread := hitem.reads _ (delimited_more texts blank_nil rest (.inl rfl))
    generalize hexpected : "an array of length " ++ Text.decimal (text :: texts).length = expected
    have hitemAt : itemAt ((texts.length + 1) - (texts.length + 1)) expected item
        (text ++ (texts.flatMap (0x2c :: ·) ++ 0x5d :: rest)) =
        .ok (a, texts.flatMap (0x2c :: ·) ++ 0x5d :: rest) := by
      have hnext (more : Bytes) : nextItem true (text ++ more) = .ok (true, text ++ more) :=
        nextItem_starts hitem blank_nil more
      rw [itemAt, Nat.sub_self, decide_eq_true rfl, bind_apply (hnext _), if_pos rfl]
      exact hread
    rw [commaSeparated_cons, List.append_assoc, List.length_cons, itemsFrom, bind_apply hitemAt,
      bind_apply (itemsFrom_more hmore rest (Nat.lt_succ_self _))]
    rfl

/-! ## Bytes as numbers -/

/-- The digits of a number. -/
def digitsOf (n : Nat) : Bytes := (Nat.toDigits 10 n).map fun c => UInt8.ofNat c.toNat

theorem ascii_decimal (n : Nat) : ascii (Text.decimal n) = digitsOf n := by
  rw [ascii, Text.decimal, String.toList_ofList, digitsOf]

/-- What the digits of a number look like to a reader of numbers. -/
theorem digitsOf_of_lt : ∀ n < 256, digitsOf n ≠ [] ∧ (digitsOf n).all isDigit = true ∧
    accumulate 0 (digitsOf n) = (n, 0) ∧
    ((digitsOf n).head? = some 0x30 → digitsOf n = [0x30] ∧ n = 0) := by
  decide +kernel

theorem afterWhole_delimited (n : Nat) {rest : Bytes} (hrest : Delimited rest) :
    afterWhole true n 0 rest = .ok (.natural n, rest) := by
  obtain ⟨b, hb, tail, rfl⟩ := hrest
  simp only [delimiters, List.mem_cons, List.not_mem_nil, or_false] at hb
  obtain rfl | rfl | rfl | rfl | rfl | rfl | rfl := hb <;> rfl

theorem not_isDigit_of_mem_delimiters : ∀ b ∈ delimiters, isDigit b = false := by
  decide +kernel

theorem digits_delimited {ds rest : Bytes} (hds : ds.all isDigit = true) (hrest : Delimited rest) :
    digits (ds ++ rest) = .ok (ds, rest) := by
  obtain ⟨b, hb, tail, rfl⟩ := hrest
  have hb := not_isDigit_of_mem_delimiters b hb
  have hall := List.all_eq_true.mp hds
  rw [digits, List.takeWhile_append_of_pos hall, List.dropWhile_append_of_pos hall,
    List.takeWhile_cons_of_neg (by simp [hb]), List.dropWhile_cons_of_neg (by simp [hb]),
    List.append_nil]

theorem number_digitsOf {n : Nat} (hn : n < 256) {rest : Bytes} (hrest : Delimited rest) :
    number true (digitsOf n ++ rest) = .ok (.natural n, rest) := by
  obtain ⟨hne, hall, hvalue, hzero⟩ := digitsOf_of_lt n hn
  obtain ⟨d, ds, hds⟩ := List.exists_cons_of_ne_nil hne
  rw [hds] at hall hvalue hzero ⊢
  rw [List.cons_append, number, bind_apply (look_cons _ _)]
  by_cases hd : d = 0x30
  · obtain ⟨htail, rfl⟩ := hzero (by rw [hd]; rfl)
    cases htail
    have hafter := afterWhole_delimited 0 hrest
    obtain ⟨b, hb, tail, rfl⟩ := hrest
    change (if isDigit b then failNext .invalidNumber else afterWhole true 0 0 : Reader Number)
      (b :: tail) = _
    rw [not_isDigit_of_mem_delimiters b hb]
    exact hafter
  · have hdigit : isDigit d = true := List.all_eq_true.mp hall d List.mem_cons_self
    simp only [if_neg hd, hdigit, if_true]
    rw [← List.cons_append, bind_apply (digits_delimited hall hrest), hvalue]
    exact afterWhole_delimited n hrest

theorem other_of_isDigit {d : UInt8} (hd : isDigit d = true) :
    isBlank d = false ∧ d ≠ 0x5d ∧ d ≠ 0x2d := by
  have hne : ∀ b : UInt8, isDigit b = false → d ≠ b := by
    rintro b hb rfl
    rw [hd] at hb
    cases hb
  refine ⟨?_, hne _ (by decide), hne _ (by decide)⟩
  simp only [isBlank, Bool.or_eq_false_iff, beq_eq_false_iff_ne]
  exact ⟨⟨⟨hne _ (by decide), hne _ (by decide)⟩, hne _ (by decide)⟩, hne _ (by decide)⟩

theorem reads_byte (b : UInt8) : Reads byte (digitsOf b.toNat) b := by
  have hn : b.toNat < 256 := b.toNat_lt
  obtain ⟨hne, hall, -, -⟩ := digitsOf_of_lt b.toNat hn
  obtain ⟨d, ds, hds⟩ := List.exists_cons_of_ne_nil hne
  have hdigit : isDigit d = true := by
    rw [hds] at hall
    exact List.all_eq_true.mp hall d List.mem_cons_self
  have hother := other_of_isDigit hdigit
  refine ⟨⟨d, ds, hds, hother.1, hother.2.1⟩, fun rest hrest => ?_⟩
  have hnumber := number_digitsOf hn hrest
  have hnat : natBelow 256 "u8" (digitsOf b.toNat ++ rest) = .ok (b.toNat, rest) := by
    rw [hds, List.cons_append] at hnumber ⊢
    rw [natBelow, bind_apply (peek_cons hother.1 _)]
    simp only [if_neg hother.2.2, hdigit, if_true]
    rw [bind_apply hnumber]
    simp only [if_pos hn]
    rfl
  rw [byte, bind_apply hnat, UInt8.ofNat_toNat]
  rfl

/-! ## Objects -/

/-- A name in quotes is read as the name of a member. -/
theorem nextName_first {gap : Bytes} (hgap : Blank gap) {name : String} (hplain : IsPlainText name)
    (rest : Bytes) :
    nextName true (gap ++ (renderString name ++ rest)) = .ok (some name, rest) := by
  have hbody := stringBody_ascii hplain rest
  rw [renderString_of_plain hplain, List.cons_append, List.cons_append, List.append_assoc, nextName,
    bind_apply (peek_gap hgap (by decide) _)]
  change ((advance >>= _ : Reader (Option String)) (0x22 :: _)) = _
  rw [bind_apply (advance_cons _ _)]
  rw [List.singleton_append, bind_apply hbody]
  rfl

theorem nextName_comma {gap : Bytes} (hgap : Blank gap) {name : String} (hplain : IsPlainText name)
    (rest : Bytes) :
    nextName false (0x2c :: (gap ++ (renderString name ++ rest))) = .ok (some name, rest) := by
  have hbody := stringBody_ascii hplain rest
  rw [renderString_of_plain hplain, List.cons_append, List.cons_append, List.append_assoc, nextName,
    bind_apply (peek_cons (by decide) _)]
  change ((advance >>= _ : Reader (Option String)) (0x2c :: _)) = _
  rw [bind_apply (advance_cons _ _), bind_apply (peek_gap hgap (by decide) _)]
  change ((advance >>= _ : Reader (Option String)) (0x22 :: _)) = _
  rw [bind_apply (advance_cons _ _)]
  rw [List.singleton_append, bind_apply hbody]
  rfl

theorem nextName_end {gap : Bytes} (hgap : Blank gap) (first : Bool) (rest : Bytes) :
    nextName first (gap ++ 0x7d :: rest) = .ok (none, 0x7d :: rest) := by
  rw [nextName, bind_apply (peek_gap hgap (by decide) rest)]
  rfl

/-- The members with some texts take a reader of members from one state to another. -/
inductive Members (member : σ → String → Reader σ) : σ → List Bytes → σ → Prop
  | nil (s : σ) : Members member s [] s
  | laid {s s' s'' : σ} {gap : Bytes} {name : String} {text : Bytes} {texts : List Bytes}
      (hgap : Blank gap) (hplain : IsPlainText name)
      (hread : ∀ rest, Delimited rest → member s name (0x3a :: (text ++ rest)) = .ok (s', rest))
      (hmore : Members member s' texts s'') :
      Members member s ((gap ++ (renderString name ++ 0x3a :: text)) :: texts) s''

theorem Members.cons {member : σ → String → Reader σ} {s s' s'' : σ} {name : String} {text : Bytes}
    {texts : List Bytes} (hplain : IsPlainText name)
    (hread : ∀ rest, Delimited rest → member s name (0x3a :: (text ++ rest)) = .ok (s', rest))
    (hmore : Members member s' texts s'') :
    Members member s ((renderString name ++ 0x3a :: text) :: texts) s'' :=
  .laid blank_nil hplain hread hmore

theorem members_more {member : σ → String → Reader σ} {s s' : σ} {texts : List Bytes}
    (h : Members member s texts s') {close : Bytes} (hclose : Blank close) (rest : Bytes)
    {fuel : Nat} (hfuel : texts.length < fuel) :
    members member fuel false s (texts.flatMap (0x2c :: ·) ++ (close ++ 0x7d :: rest)) =
      .ok (s', 0x7d :: rest) := by
  obtain ⟨fuel, rfl⟩ := Nat.exists_eq_succ_of_ne_zero (Nat.ne_zero_of_lt hfuel)
  induction h generalizing fuel with
  | nil =>
    rw [List.flatMap_nil, List.nil_append, members, bind_apply (nextName_end hclose false rest)]
    rfl
  | @laid s s' s'' gap name text texts hgap hplain hread hmore ih =>
    obtain ⟨fuel, rfl⟩ :=
      Nat.exists_eq_succ_of_ne_zero (Nat.ne_zero_of_lt (Nat.lt_of_succ_lt_succ hfuel))
    have hstep := hread _ (delimited_more texts hclose rest (.inr rfl))
    simp only [List.flatMap_cons, List.cons_append, List.append_assoc]
    rw [members, bind_apply (nextName_comma hgap hplain _)]
    change ((member s name >>= _ : Reader σ) _) = _
    rw [bind_apply hstep]
    exact ih fuel (Nat.lt_of_succ_lt_succ hfuel)

/-- The members of an object are read up to its end. -/
theorem bounded_members {member : σ → String → Reader σ} {s s' : σ} {texts : List Bytes}
    (h : Members member s texts s') {close : Bytes} (hclose : Blank close) (rest : Bytes) :
    bounded (fun fuel => members member fuel true s)
      (commaSeparated texts ++ (close ++ 0x7d :: rest)) = .ok (s', 0x7d :: rest) := by
  have hfuel : texts.length < (commaSeparated texts ++ (close ++ 0x7d :: rest)).length + 1 := by
    have hle := length_le_commaSeparated texts
    rw [List.length_append, List.length_append, List.length_cons]
    omega
  rw [bounded]
  generalize (commaSeparated texts ++ (close ++ 0x7d :: rest)).length = fuel at hfuel ⊢
  cases h with
  | nil =>
    rw [commaSeparated, List.nil_append, members, bind_apply (nextName_end hclose true rest)]
    rfl
  | @laid _ s' _ gap name text texts hgap hplain hread hmore =>
    have hstep := hread _ (delimited_more texts hclose rest (.inr rfl))
    simp only [commaSeparated_cons, List.cons_append, List.append_assoc]
    rw [members, bind_apply (nextName_first hgap hplain _)]
    change ((member s name >>= _ : Reader σ) _) = _
    rw [bind_apply hstep]
    exact members_more hmore hclose rest (Nat.lt_of_succ_lt_succ hfuel)

theorem inObject_of_body {body : Reader α} {text rest : Bytes} {a : α}
    (hbody : body text = .ok (a, 0x7d :: rest)) :
    inObject body (0x7b :: text) = .ok (a, rest) := by
  rw [inObject, bind_apply (advance_cons _ _), bind_apply (placedBy_of_ok hbody),
    bind_apply (endObject_end rest)]
  rfl

/-- A member that was not read before is read. -/
theorem once_of_apply {value : Reader α} {name : String} {input rest : Bytes} {a : α}
    (h : value input = .ok (a, rest)) (set : Option α → σ) :
    (do let found ← once name none value; pure (set found) : Reader σ) (0x3a :: input) =
      .ok (set (some a), rest) := by
  have honce : once name none value (0x3a :: input) = .ok (some a, rest) := by
    rw [once, bind_apply (colon_colon _), bind_apply h]
    rfl
  rw [bind_apply honce]
  rfl

/-! ## Documents -/

theorem renderItems_eq_map (values : List Value) :
    Value.renderItems values = values.map Value.render := by
  induction values with
  | nil => rfl
  | cons value values ih => rw [Value.renderItems, ih, List.map_cons]

theorem render_array (values : List Value) :
    (Value.array values).render = 0x5b :: (commaSeparated (values.map Value.render) ++ [0x5d]) := by
  rw [Value.render, renderItems_eq_map, List.cons_append]

theorem forall₂_map {β : Type} {item : Reader α} {document : β → Value} {value : β → α}
    (h : ∀ b, Reads item (document b).render (value b)) (bs : List β) :
    List.Forall₂ (Reads item) ((bs.map document).map Value.render) (bs.map value) := by
  induction bs with
  | nil => exact .nil
  | cons b bs ih => exact .cons (h b) ih

theorem reads_list {β : Type} {item : Reader α} {document : β → Value} {value : β → α}
    (h : ∀ b, Reads item (document b).render (value b)) (bs : List β) :
    Reads (list item) (Value.array (bs.map document)).render (bs.map value) := by
  rw [render_array]
  refine ⟨⟨0x5b, _, rfl, by decide, by decide⟩, fun rest _ => ?_⟩
  rw [List.cons_append, List.append_assoc, List.singleton_append]
  exact list_array (forall₂_laid (forall₂_map h bs)) blank_nil rest

theorem reads_exactly {β : Type} {item : Reader α} {document : β → Value} {value : β → α}
    (h : ∀ b, Reads item (document b).render (value b)) (bs : List β) :
    Reads (exactly bs.length item) (Value.array (bs.map document)).render (bs.map value) := by
  rw [render_array]
  refine ⟨⟨0x5b, _, rfl, by decide, by decide⟩, fun rest _ => ?_⟩
  have hread := exactly_array (forall₂_map h bs) rest
  rw [List.length_map, List.length_map] at hread
  rw [List.cons_append, List.append_assoc, List.singleton_append]
  exact hread

theorem reads_byteValue (b : UInt8) : Reads byte (Value.nat b.toNat).render b := by
  rw [Value.nat, Value.render, Number.render, ascii_decimal]
  exact reads_byte b

theorem reads_bytes (bs : Bytes) : Reads (list byte) (Value.bytes bs).render bs := by
  simpa [Value.bytes] using reads_list reads_byteValue bs

/-- What is no `null` is read as something. -/
theorem reads_some {r : Reader α} {text : Bytes} {a : α} (h : Reads r text a)
    (hnull : text.head? ≠ some 0x6e) : Reads (option r) text (some a) := by
  refine ⟨h.starts, fun rest hrest => ?_⟩
  obtain ⟨b, tail, rfl, hblank, -⟩ := h.starts
  have hread := h.reads rest hrest
  have hb : b ≠ 0x6e := fun heq => hnull (congrArg some heq)
  rw [List.cons_append] at hread ⊢
  rw [option, bind_apply (peek_cons hblank _)]
  simp only [Option.some.injEq, hb, imp_self]
  rw [bind_apply hread]
  rfl

/-- Nothing is read as nothing, and a list as a list. -/
theorem reads_option {r : Reader α} {document : α → Value}
    (h : ∀ a, Reads r (document a).render a)
    (hlist : ∀ a, ∃ tail, (document a).render = 0x5b :: tail) (o : Option α) :
    Reads (option r) (Value.option document o).render o := by
  cases o with
  | none => exact ⟨⟨0x6e, _, rfl, by decide, by decide⟩, fun rest _ => rfl⟩
  | some a =>
    obtain ⟨tail, htail⟩ := hlist a
    refine reads_some (h a) ?_
    rw [Value.option, htail]
    simp

end Reader

end SealedExchange.Json
