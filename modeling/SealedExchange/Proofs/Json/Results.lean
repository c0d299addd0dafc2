import SealedExchange.Json.Reader

/-! # What the values read from a document are like

A property that every result of a reader has, whatever the input, follows from the readers it is
made of. A reader that only refuses has every property, since it gives no result.
-/

namespace SealedExchange.Json.Reader

variable {α β σ : Type} {P : α → Prop} {Q : β → Prop}

/-- Every result of a reader has a property. -/
def Yields (reader : Reader α) (P : α → Prop) : Prop :=
  ∀ input a rest, reader input = .ok (a, rest) → P a

theorem yields_pure {a : α} (ha : P a) : Yields (pure a) P := by
  intro input b rest hread
  cases hread
  exact ha

theorem Yields.bind {reader : Reader α} {next : α → Reader β} (hreader : Yields reader P)
    (hnext : ∀ a, P a → Yields (next a) Q) : Yields (reader >>= next) Q := by
  intro input b rest hread
  change (reader input).bind (fun found => next found.1 found.2) = _ at hread
  cases hfound : reader input with
  | error e =>
    rw [hfound] at hread
    cases hread
  | ok found =>
    rw [hfound] at hread
    exact hnext found.1 (hreader input found.1 found.2 hfound) found.2 b rest hread

/-- What comes first does not matter if every continuation has the property. -/
theorem yields_bind {reader : Reader α} {next : α → Reader β} (hnext : ∀ a, Yields (next a) Q) :
    Yields (reader >>= next) Q := by
  have hany : Yields reader fun _ => True := fun _ _ _ _ => trivial
  exact hany.bind fun a _ => hnext a

/-! ## Readers that refuse -/

theorem yields_fail (e : Error) : Yields (fail e) P := nofun

theorem yields_failNext (e : Error) : Yields (failNext e) P := nofun

theorem yields_refuse (e : Error) : Yields (refuse e) P := nofun

theorem yields_unexpected (expected : String) : Yields (unexpected expected) P := by
  refine yields_bind fun next => ?_
  cases next with
  | none => exact yields_fail _
  | some b =>
    -- Whatever comes next is read as far as the error needs it, and then refused.
    dsimp only
    split
    · exact yields_bind fun _ => yields_bind fun _ => yields_fail _
    split
    · exact yields_bind fun _ => yields_bind fun _ => yields_fail _
    split
    · exact yields_bind fun _ => yields_bind fun _ => yields_fail _
    split
    · exact yields_bind fun _ => yields_bind fun _ => yields_fail _
    split
    · exact yields_bind fun _ => yields_fail _
    split
    · exact yields_bind fun _ => yields_bind fun _ => yields_fail _
    split
    · exact yields_fail _
    split
    · exact yields_fail _
    · exact yields_failNext _

/-! ## Lists, objects and records -/

theorem Yields.placedBy {reader : Reader α} (hreader : Yields reader P) (place : Bytes → Bytes) :
    Yields (placedBy place reader) P := by
  intro input a rest hread
  refine hreader input a rest ?_
  unfold Reader.placedBy at hread
  cases hfound : reader input with
  | error e =>
    rw [hfound] at hread
    cases hread
  | ok found =>
    rw [hfound] at hread
    exact hread

theorem yields_bounded {run : Nat → Reader α} (hrun : ∀ fuel, Yields (run fuel) P) :
    Yields (bounded run) P :=
  fun input a rest hread => hrun (input.length + 1) input a rest hread

theorem Yields.inList {body : Reader α} (hbody : Yields body P) (expected : String) :
    Yields (inList expected body) P := by
  refine yields_bind fun next => ?_
  split
  · refine yields_bind fun _ => (hbody.placedBy _).bind fun a ha => ?_
    exact yields_bind fun _ => yields_pure ha
  · exact yields_unexpected _

theorem Yields.inObject {body : Reader α} (hbody : Yields body P) : Yields (inObject body) P :=
  yields_bind fun _ => (hbody.placedBy _).bind fun _ ha => yields_bind fun _ => yields_pure ha

theorem Yields.record {fields object : Reader α} (hfields : Yields fields P)
    (hobject : Yields object P) (expected : String) : Yields (record expected fields object) P := by
  refine yields_bind fun next => ?_
  split
  · exact hfields.inList _
  · exact hobject.inObject
  · exact yields_unexpected _

theorem Yields.itemAt {item : Reader α} (hitem : Yields item P) (place : Nat)
    (expected : String) : Yields (itemAt place expected item) P := by
  refine yields_bind fun more => ?_
  cases more
  · exact yields_refuse _
  · exact hitem

/-- What holds at first and is kept by every member holds behind the last one. -/
theorem yields_members {member : σ → String → Reader σ} {I : σ → Prop}
    (hmember : ∀ s name, I s → Yields (member s name) I) (fuel : Nat) (first : Bool) {s : σ}
    (hs : I s) : Yields (members member fuel first s) I := by
  induction fuel generalizing first s with
  | zero => exact yields_fail _
  | succ fuel ih =>
    refine yields_bind fun name => ?_
    cases name with
    | none => exact yields_pure hs
    | some name => exact (hmember s name hs).bind fun _ hs => ih false hs

theorem Yields.once {value : Reader α} (hvalue : Yields value P) (name : String)
    (seen : Option α) : Yields (once name seen value) fun found => ∀ a, found = some a → P a := by
  cases seen with
  | some _ => exact yields_refuse _
  | none =>
    refine yields_bind fun _ => hvalue.bind fun a ha => yields_pure fun b hb => ?_
    cases hb
    exact ha

theorem yields_required (name : String) {field : Option α} (hfield : ∀ a, field = some a → P a) :
    Yields (required name field) P := by
  cases field with
  | none => exact yields_refuse _
  | some a => exact yields_pure (hfield a rfl)

theorem Yields.of_run {reader : Reader α} (hreader : Yields reader P) {input : Bytes} {a : α}
    (hrun : run reader input = .ok a) : P a := by
  unfold run at hrun
  cases hread : reader input with
  | error e =>
    rw [hread] at hrun
    cases hrun
  | ok found =>
    obtain ⟨b, rest⟩ := found
    rw [hread] at hrun
    dsimp only at hrun
    split at hrun
    · cases hrun
      exact hreader input a rest hread
    · cases hrun

end SealedExchange.Json.Reader
