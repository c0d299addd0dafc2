import SealedExchange.Proofs.Json.Rendered

/-! # Reading what was laid out

A typed reader also takes back a document that was written with one entry a line. The new lines and
the indentation stand where blanks may stand, and after the colon of a member a reader that looks
for a token passes over the blank.
-/

namespace SealedExchange.Json

theorem Value.itemsAt_eq_map (level : Nat) (values : List Value) :
    Value.itemsAt level values = values.map fun value => newLine level ++ value.renderAt level := by
  induction values with
  | nil => rfl
  | cons value values ih => rw [Value.itemsAt, ih, List.map_cons]

namespace Reader

variable {α β σ : Type}

theorem blank_newLine (level : Nat) : Blank (newLine level) := by
  intro b hb
  rcases List.mem_cons.mp hb with rfl | hb
  · rfl
  · rw [List.eq_of_mem_replicate hb]
    rfl

/-! ## Blanks in front of a value -/

/-- A reader passes over blanks in front of what it reads. -/
def SkipsBlanks (r : Reader α) : Prop := ∀ gap rest, Blank gap → r (gap ++ rest) = r rest

theorem skipsBlanks_peek_bind (f : Option UInt8 → Reader α) : SkipsBlanks (peek >>= f) := by
  intro gap rest hgap
  change (peek (gap ++ rest) >>= fun p => f p.1 p.2) = (peek rest >>= fun p => f p.1 p.2)
  rw [peek_blank hgap]

/-- A value is read behind the colon of a member and a blank. -/
theorem once_laid {value : Reader α} (hskips : SkipsBlanks value) {name : String} {text : Bytes}
    {a : α} (h : Reads value text a) (set : Option α → σ) (rest : Bytes) (hrest : Delimited rest) :
    (do let found ← once name none value; pure (set found) : Reader σ)
      (0x3a :: 0x20 :: (text ++ rest)) = .ok (set (some a), rest) := by
  refine once_of_apply ?_ set
  have hblank : Blank [0x20] := fun b hb => by rw [List.mem_singleton.mp hb]; rfl
  exact (hskips [0x20] (text ++ rest) hblank).trans (h.reads rest hrest)

/-! ## Texts and numbers -/

theorem reads_text {text : String} (hplain : IsPlainText text) (expected : String) :
    Reads (Reader.text expected) (renderString text) text := by
  have hrender : renderString text = 0x22 :: (ascii text ++ [0x22]) := by
    rw [renderString_of_plain hplain, List.cons_append]
  rw [hrender]
  refine ⟨⟨0x22, _, rfl, by decide, by decide⟩, fun rest _ => ?_⟩
  rw [List.cons_append, List.append_assoc, List.singleton_append, Reader.text,
    bind_apply (peek_cons (by decide) _)]
  change ((advance >>= _ : Reader String) (0x22 :: _)) = _
  rw [bind_apply (advance_cons _ _), stringBody_ascii hplain]

theorem skipsBlanks_text (expected : String) : SkipsBlanks (Reader.text expected) :=
  skipsBlanks_peek_bind _

theorem reads_natBelow {n bound : Nat} (hn : n < 256) (hbound : n < bound) (expected : String) :
    Reads (natBelow bound expected) (Value.nat n).render n := by
  rw [Value.nat, Value.render, Number.render, ascii_decimal]
  obtain ⟨hne, hall, -, -⟩ := digitsOf_of_lt n hn
  obtain ⟨d, ds, hds⟩ := List.exists_cons_of_ne_nil hne
  have hdigit : isDigit d = true := by
    rw [hds] at hall
    exact List.all_eq_true.mp hall d List.mem_cons_self
  have hother := other_of_isDigit hdigit
  refine ⟨⟨d, ds, hds, hother.1, hother.2.1⟩, fun rest hrest => ?_⟩
  have hnumber := number_digitsOf hn hrest
  rw [hds, List.cons_append] at hnumber ⊢
  rw [natBelow, bind_apply (peek_cons hother.1 _)]
  simp only [if_neg hother.2.2, hdigit, if_true]
  rw [bind_apply hnumber]
  simp only [if_pos hbound]
  rfl

theorem skipsBlanks_natBelow (bound : Nat) (expected : String) :
    SkipsBlanks (natBelow bound expected) :=
  skipsBlanks_peek_bind _

/-! ## Lists -/

theorem reads_list_at {item : Reader α} {document : β → Value} {value : β → α} {level : Nat}
    {bs : List β} (h : ∀ b ∈ bs, Reads item ((document b).renderAt (level + 1)) (value b)) :
    Reads (list item) ((Value.array (bs.map document)).renderAt level) (bs.map value) := by
  have htexts : List.Forall₂ (Laid item) (Value.itemsAt (level + 1) (bs.map document))
      (bs.map value) := by
    rw [Value.itemsAt_eq_map]
    induction bs with
    | nil => exact .nil
    | cons b bs ih =>
      exact .cons ⟨_, _, blank_newLine _, rfl, h b List.mem_cons_self⟩
        (ih fun other hother => h other (.tail _ hother))
  cases bs with
  | nil =>
    refine ⟨⟨0x5b, _, rfl, by decide, by decide⟩, fun rest _ => ?_⟩
    exact list_array htexts blank_nil rest
  | cons b bs =>
    rw [List.map_cons] at htexts ⊢
    rw [Value.renderAt]
    refine ⟨⟨0x5b, _, rfl, by decide, by decide⟩, fun rest _ => ?_⟩
    have hread := list_array htexts (blank_newLine level) rest
    simpa only [List.cons_append, List.append_assoc, List.nil_append] using hread

theorem skipsBlanks_list (item : Reader α) : SkipsBlanks (list item) :=
  skipsBlanks_peek_bind _

/-! ## Records -/

theorem Members.at {member : σ → String → Reader σ} {s s' s'' : σ} {level : Nat} {name : String}
    {value : Value} {more : List (String × Value)} (hplain : IsPlainText name)
    (hread : ∀ rest, Delimited rest →
      member s name (0x3a :: 0x20 :: (value.renderAt level ++ rest)) = .ok (s', rest))
    (hmore : Members member s' (Value.membersAt level more) s'') :
    Members member s (Value.membersAt level ((name, value) :: more)) s'' := by
  rw [Value.membersAt, List.append_assoc]
  exact .laid (blank_newLine level) hplain hread hmore

/-- A record is read by its members, of which there is one at least, whatever follows it. -/
theorem record_at {expected : String} {fields : Reader α} {member : σ → String → Reader σ}
    {finish : σ → Reader α} {s s' : σ} {level : Nat} {members : List (String × Value)} {a : α}
    (hne : members ≠ []) (hmembers : Members member s (Value.membersAt (level + 1) members) s')
    (hfinish : ∀ rest, finish s' rest = .ok (a, rest)) (rest : Bytes) :
    record expected fields
      (do let s ← bounded fun fuel => Reader.members member fuel true s; finish s)
      ((Value.object members).renderAt level ++ rest) = .ok (a, rest) := by
  obtain ⟨first, members, rfl⟩ := List.exists_cons_of_ne_nil hne
  rw [Value.renderAt]
  simp only [List.cons_append, List.append_assoc, List.nil_append]
  rw [record, bind_apply (peek_cons (by decide) _)]
  refine inObject_of_body ?_
  rw [bind_apply (bounded_members hmembers (blank_newLine level) rest), hfinish]

theorem reads_record_at {expected : String} {fields : Reader α} {member : σ → String → Reader σ}
    {finish : σ → Reader α} {s s' : σ} {level : Nat} {members : List (String × Value)} {a : α}
    (hne : members ≠ []) (hmembers : Members member s (Value.membersAt (level + 1) members) s')
    (hfinish : ∀ rest, finish s' rest = .ok (a, rest)) :
    Reads (record expected fields
      (do let s ← bounded fun fuel => Reader.members member fuel true s; finish s))
      ((Value.object members).renderAt level) a := by
  refine ⟨?_, fun rest _ => record_at hne hmembers hfinish rest⟩
  obtain ⟨first, members, rfl⟩ := List.exists_cons_of_ne_nil hne
  rw [Value.renderAt]
  exact ⟨0x7b, _, rfl, by decide, by decide⟩

theorem skipsBlanks_option (r : Reader α) : SkipsBlanks (option r) :=
  skipsBlanks_peek_bind _

end Reader

end SealedExchange.Json
