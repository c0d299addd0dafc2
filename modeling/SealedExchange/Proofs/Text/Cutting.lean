import Mathlib.Data.List.DropRight
import SealedExchange.Text.Basic

/-! # Cutting text where it was put together

A text is cut at the first occurrence of a separator, so parts without the separator come back as
they were. The same holds for lines and their line breaks, for words and the blanks between them,
and for what is trimmed off at the ends.
-/

namespace SealedExchange.Text

variable {chars part rest : List Char} {c separator : Char}

/-- No blank stands in a text. -/
def IsSolid (text : String) : Prop := ∀ d ∈ text.toList, isBlank d = false

instance : DecidablePred IsSolid := fun text =>
  List.decidableBAll (fun d => isBlank d = false) text.toList

theorem isSolid_append_iff {front back : String} :
    IsSolid (front ++ back) ↔ IsSolid front ∧ IsSolid back := by
  rw [IsSolid, String.toList_append, List.forall_mem_append]
  rfl

/-! ## Ends -/

theorem dropWhile_of_head? {test : Char → Bool} (hhead : ∀ d ∈ chars.head?, test d = false) :
    chars.dropWhile test = chars := by
  cases chars with
  | nil => rfl
  | cons d chars => rw [List.dropWhile_cons_of_neg (by simp [hhead d rfl])]

theorem dropEndWhile_of_getLast? {test : Char → Bool}
    (hlast : ∀ d ∈ chars.getLast?, test d = false) : dropEndWhile test chars = chars := by
  rw [dropEndWhile, dropWhile_of_head?, List.reverse_reverse]
  rwa [List.head?_reverse]

theorem dropEndWhile_append {test : Char → Bool} (chars : List Char) {dropped : List Char}
    (hdropped : ∀ d ∈ dropped, test d = true) :
    dropEndWhile test (chars ++ dropped) = dropEndWhile test chars := by
  rw [dropEndWhile, List.reverse_append,
    List.dropWhile_append_of_pos fun d hd => hdropped d (List.mem_reverse.mp hd), dropEndWhile]

theorem dropEndWhile_eq_rdropWhile (test : Char → Bool) (chars : List Char) :
    dropEndWhile test chars = chars.rdropWhile test :=
  rfl

theorem toList_trim (text : String) : (trim text).toList = trimChars text.toList :=
  String.toList_ofList

theorem trimChars_sublist (chars : List Char) : (trimChars chars).Sublist chars := by
  rw [trimChars, dropEndWhile_eq_rdropWhile]
  exact (List.rdropWhile_prefix _ _).sublist.trans (List.dropWhile_sublist _)

theorem trim_of_isSolid {text : String} (htext : IsSolid text) : trim text = text := by
  rw [trim, trimChars, dropWhile_of_head?, dropEndWhile_of_getLast?, String.ofList_toList]
  · exact fun d hd => htext d (List.mem_of_mem_getLast? hd)
  · exact fun d hd => htext d (List.mem_of_mem_head? hd)

theorem getLast?_append_ne (front : String) {back : String} (hback : back ≠ "")
    (hnot : c ∉ back.toList) : (front ++ back).toList.getLast? ≠ some c := by
  have hfull : back.toList ≠ [] := by simpa using hback
  rw [String.toList_append, List.getLast?_append, List.getLast?_eq_some_getLast hfull,
    Option.some_or]
  intro heq
  exact hnot (Option.some.inj heq ▸ List.getLast_mem hfull)

/-- As many slashes are dropped as stand at the end. -/
theorem trimEndSlashes_append {text : String} (htext : text.toList.getLast? ≠ some '/') (n : Nat) :
    trimEndSlashes (text ++ String.ofList (List.replicate n '/')) = text := by
  rw [trimEndSlashes, String.toList_append, String.toList_ofList, dropEndWhile_append,
    dropEndWhile_of_getLast?, String.ofList_toList]
  · rintro d hd
    rw [beq_eq_false_iff_ne]
    rintro rfl
    exact htext hd
  · intro d hd
    rw [List.eq_of_mem_replicate hd, beq_self_eq_true]

theorem dropStart?_append (start text : String) : dropStart? start (start ++ text) = some text := by
  have hprefix : start.toList.isPrefixOf (start.toList ++ text.toList) = true :=
    List.isPrefixOf_iff_prefix.mpr (List.prefix_append _ _)
  rw [dropStart?, String.toList_append, if_pos hprefix, ← String.length_toList, List.drop_left,
    String.ofList_toList]

/-! ## One cut -/

theorem splitOnceChars_append (hpart : separator ∉ part) (rest : List Char) :
    splitOnceChars separator (part ++ separator :: rest) = some (part, rest) := by
  induction part with
  | nil => rw [List.nil_append, splitOnceChars, if_pos rfl]
  | cons c part ih =>
    rw [List.mem_cons, not_or] at hpart
    rw [List.cons_append, splitOnceChars, if_neg (Ne.symm hpart.1), ih hpart.2, Option.map_some]

theorem splitOnceChars_of_notMem (hchars : separator ∉ chars) :
    splitOnceChars separator chars = none := by
  induction chars with
  | nil => rfl
  | cons c chars ih =>
    rw [List.mem_cons, not_or] at hchars
    rw [splitOnceChars, if_neg (Ne.symm hchars.1), ih hchars.2, Option.map_none]

/-- A text is cut behind the first part, if the separator is not in it. -/
theorem splitOnce_append {part mark : String} (hmark : mark.toList = [separator])
    (hpart : separator ∉ part.toList) (rest : String) :
    splitOnce separator (part ++ mark ++ rest) = some (part, rest) := by
  rw [splitOnce, String.toList_append, String.toList_append, hmark, List.append_assoc,
    List.singleton_append, splitOnceChars_append hpart, Option.map_some, String.ofList_toList,
    String.ofList_toList]

theorem splitOnce_of_notMem {text : String} (htext : separator ∉ text.toList) :
    splitOnce separator text = none := by
  rw [splitOnce, splitOnceChars_of_notMem htext, Option.map_none]

/-! ## Every cut -/

theorem join_cons_cons (mark first second : String) (more : List String) :
    join mark (first :: second :: more) = first ++ mark ++ join mark (second :: more) := by
  rw [← String.toList_inj, String.toList_append, String.toList_append, join, join,
    String.toList_ofList, String.toList_ofList, List.map_cons, List.map_cons,
    List.intercalate_cons_cons]

theorem join_singleton (mark text : String) : join mark [text] = text := by
  rw [join, List.map_singleton, List.intercalate_singleton, String.ofList_toList]

theorem isSolid_join {mark : String} {parts : List String} (hmark : IsSolid mark)
    (hparts : ∀ part ∈ parts, IsSolid part) : IsSolid (join mark parts) := by
  induction parts with
  | nil => simp [IsSolid, join]
  | cons first parts ih =>
    obtain ⟨hfirst, hparts⟩ := List.forall_mem_cons.mp hparts
    cases parts with
    | nil => rwa [join_singleton]
    | cons second parts =>
      rw [join_cons_cons, isSolid_append_iff, isSolid_append_iff]
      exact ⟨⟨hfirst, hmark⟩, ih hparts⟩

/-- What was joined with a mark between the parts is cut into the parts, if each cut goes through
the first mark. -/
theorem cut_join {cut : String → List String} {mark : String} {parts : List String}
    (hne : parts ≠ []) (hlast : ∀ part ∈ parts, cut part = [part])
    (hmore : ∀ part ∈ parts, ∀ rest, cut (part ++ mark ++ rest) = part :: cut rest) :
    cut (join mark parts) = parts := by
  induction parts with
  | nil => exact absurd rfl hne
  | cons first parts ih =>
    obtain ⟨hfirst, hlast⟩ := List.forall_mem_cons.mp hlast
    obtain ⟨hcut, hmore⟩ := List.forall_mem_cons.mp hmore
    cases parts with
    | nil => rw [join_singleton, hfirst]
    | cons second parts =>
      rw [join_cons_cons, hcut, ih (List.cons_ne_nil _ _) hlast hmore]

theorem splitChars_append (hpart : separator ∉ part) (rest : List Char) :
    splitChars separator (part ++ separator :: rest) = part :: splitChars separator rest := by
  induction part with
  | nil => rw [List.nil_append, splitChars, if_pos rfl]
  | cons c part ih =>
    rw [List.mem_cons, not_or] at hpart
    rw [List.cons_append, splitChars, if_neg (Ne.symm hpart.1), ih hpart.2]

theorem splitChars_of_notMem (hchars : separator ∉ chars) :
    splitChars separator chars = [chars] := by
  induction chars with
  | nil => rfl
  | cons c chars ih =>
    rw [List.mem_cons, not_or] at hchars
    rw [splitChars, if_neg (Ne.symm hchars.1), ih hchars.2]

theorem split_join {mark : String} {parts : List String} (hmark : mark.toList = [separator])
    (hne : parts ≠ []) (hparts : ∀ part ∈ parts, separator ∉ part.toList) :
    split separator (join mark parts) = parts := by
  refine cut_join hne (fun part hpart => ?_) fun part hpart rest => ?_
  · rw [split, splitChars_of_notMem (hparts part hpart), List.map_singleton, String.ofList_toList]
  · rw [split, String.toList_append, String.toList_append, hmark, List.append_assoc,
      List.singleton_append, splitChars_append (hparts part hpart), List.map_cons,
      String.ofList_toList, split]

/-! ## Lines -/

/-- A text is one line. -/
def IsLine (text : String) : Prop := ¬['\r', '\n'] <:+: text.toList

theorem isLine_of_notMem {text : String} (htext : '\r' ∉ text.toList) : IsLine text :=
  fun hoccurs => htext (hoccurs.subset List.mem_cons_self)

theorem lineChars_cons {line : List Char} {lines : List (List Char)}
    (hbreak : ¬['\r', '\n'] <+: c :: rest) (hrest : lineChars rest = line :: lines) :
    lineChars (c :: rest) = (c :: line) :: lines := by
  rw [lineChars, hrest]
  rintro more rfl rfl
  exact hbreak ⟨more, rfl⟩

theorem lineChars_of_not_infix (hchars : ¬['\r', '\n'] <:+: chars) : lineChars chars = [chars] := by
  induction chars with
  | nil => rfl
  | cons c chars ih =>
    rw [List.infix_cons_iff, not_or] at hchars
    exact lineChars_cons hchars.1 (ih hchars.2)

theorem lineChars_append (hpart : ¬['\r', '\n'] <:+: part) (rest : List Char) :
    lineChars (part ++ '\r' :: '\n' :: rest) = part :: lineChars rest := by
  induction part with
  | nil => rfl
  | cons c part ih =>
    rw [List.infix_cons_iff, not_or] at hpart
    refine lineChars_cons (fun hprefix => hpart.1 ?_) (ih hpart.2)
    -- A line break is not cut in two, because it does not start as it ends.
    cases part with
    | nil => simp [List.cons_prefix_cons] at hprefix
    | cons d part => simpa [List.cons_prefix_cons] using hprefix

theorem lines_join {parts : List String} (hne : parts ≠ []) (hparts : ∀ part ∈ parts, IsLine part) :
    lines (join "\r\n" parts) = parts := by
  refine cut_join hne (fun part hpart => ?_) fun part hpart rest => ?_
  · rw [lines, lineChars_of_not_infix (hparts part hpart), List.map_singleton,
      String.ofList_toList]
  · have hmark : "\r\n".toList = ['\r', '\n'] := rfl
    rw [lines, String.toList_append, String.toList_append, hmark, List.append_assoc,
      List.cons_append, List.singleton_append, lineChars_append (hparts part hpart), List.map_cons,
      String.ofList_toList, lines]

/-! ## Words -/

theorem wordChars_append (hne : part ≠ []) (hpart : ∀ d ∈ part, isBlank d = false)
    (hc : isBlank c = true) (rest : List Char) :
    wordChars (part ++ c :: rest) = part :: wordChars rest := by
  induction part with
  | nil => exact absurd rfl hne
  | cons d part ih =>
    obtain ⟨hd, hpart⟩ := List.forall_mem_cons.mp hpart
    cases part with
    | nil =>
      have hskip : wordChars (c :: rest) = wordChars rest := by
        rw [wordChars.eq_def]
        exact if_pos hc
      rw [List.singleton_append, wordChars.eq_def]
      simp only [hd, Bool.false_eq_true, if_false, hc, if_true, hskip]
    | cons e part =>
      have he := hpart e List.mem_cons_self
      have hword := ih (List.cons_ne_nil _ _) hpart
      rw [List.cons_append] at hword ⊢
      rw [List.cons_append, wordChars.eq_def]
      simp only [hd, he, hword, Bool.false_eq_true, if_false]

/-- A text is one word. -/
def IsWord (text : String) : Prop := text ≠ "" ∧ IsSolid text

theorem words_append {word : String} (hword : IsWord word) (rest : String) :
    words (word ++ " " ++ rest) = word :: words rest := by
  have hmark : " ".toList = [' '] := rfl
  have hblank : isBlank ' ' = true := by decide
  have hword := wordChars_append (by simpa using hword.1) hword.2 hblank
  rw [words, String.toList_append, String.toList_append, hmark, List.append_assoc,
    List.singleton_append, hword, List.map_cons, String.ofList_toList, words]

end SealedExchange.Text
