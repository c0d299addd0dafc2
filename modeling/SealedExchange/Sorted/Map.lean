/-! # Maps in key order

A `SortedMap` keeps its entries in strictly increasing key order, so a map is determined by its
entries and listing it is listing them in order. `insert` replaces the value of a key that is
already present.
-/

namespace SealedExchange

/-- A finite map whose entries stand in strictly increasing key order. -/
structure SortedMap (κ : Type) (υ : Type) [Ord κ] where
  /-- The entries, one for each key. -/
  entries : List (κ × υ)
  /-- Keys increase from each entry to every later one. -/
  sorted : entries.Pairwise fun a b => compare a.1 b.1 = .lt

namespace SortedMap

variable {κ υ ω : Type} [Ord κ]

/-- Puts an entry in its place in an ordered list, replacing one with the same key. -/
def insertEntry (key : κ) (value : υ) : List (κ × υ) → List (κ × υ)
  | [] => [(key, value)]
  | entry :: rest =>
    match compare key entry.1 with
    | .lt => (key, value) :: entry :: rest
    | .eq => (key, value) :: rest
    | .gt => entry :: insertEntry key value rest

theorem mem_insertEntry {key : κ} {value : υ} {entry : κ × υ} {entries : List (κ × υ)} :
    entry ∈ insertEntry key value entries → entry = (key, value) ∨ entry ∈ entries := by
  induction entries with
  | nil => simp [insertEntry]
  | cons head rest ih => rw [insertEntry]; split <;> grind

theorem pairwise_insertEntry [Std.TransOrd κ] [Std.LawfulEqOrd κ] (key : κ) (value : υ)
    {entries : List (κ × υ)} (h : entries.Pairwise fun a b => compare a.1 b.1 = .lt) :
    (insertEntry key value entries).Pairwise fun a b => compare a.1 b.1 = .lt := by
  induction entries with
  | nil => simp [insertEntry]
  | cons head rest ih =>
    obtain ⟨hhead, hrest⟩ := List.pairwise_cons.mp h
    rw [insertEntry]
    split
    · rename_i hlt
      refine List.pairwise_cons.mpr ⟨fun entry hmem => ?_, h⟩
      rcases List.mem_cons.mp hmem with rfl | hmem
      · exact hlt
      · exact Std.TransCmp.lt_trans hlt (hhead entry hmem)
    · rename_i heq
      have heq : key = head.1 := Std.LawfulEqCmp.eq_of_compare heq
      exact List.pairwise_cons.mpr ⟨fun entry hmem => heq ▸ hhead entry hmem, hrest⟩
    · rename_i hgt
      refine List.pairwise_cons.mpr ⟨fun entry hmem => ?_, ih hrest⟩
      rcases mem_insertEntry hmem with rfl | hmem
      · exact Std.OrientedCmp.lt_of_gt hgt
      · exact hhead entry hmem

instance [DecidableEq κ] [DecidableEq υ] : DecidableEq (SortedMap κ υ) := fun a b =>
  if h : a.entries = b.entries then
    isTrue (by cases a; cases b; cases h; rfl)
  else
    isFalse fun heq => h (heq ▸ rfl)

/-- The map without entries. -/
def empty : SortedMap κ υ := ⟨[], .nil⟩

instance : Inhabited (SortedMap κ υ) := ⟨empty⟩

/-- Tests whether the map has no entry. -/
def isEmpty (m : SortedMap κ υ) : Bool := m.entries.isEmpty

/-- The number of entries. -/
def size (m : SortedMap κ υ) : Nat := m.entries.length

/-- The value of a key. -/
def get? [DecidableEq κ] (m : SortedMap κ υ) (key : κ) : Option υ :=
  (m.entries.find? fun entry => entry.1 = key).map (·.2)

/-- Tests whether a key has a value. -/
def contains [DecidableEq κ] (m : SortedMap κ υ) (key : κ) : Bool :=
  m.entries.any fun entry => entry.1 = key

/-- The keys in increasing order. -/
def keys (m : SortedMap κ υ) : List κ := m.entries.map (·.1)

/-- The values in the order of their keys. -/
def values (m : SortedMap κ υ) : List υ := m.entries.map (·.2)

/-- Gives a key a value, whether or not it has one. -/
def insert [Std.TransOrd κ] [Std.LawfulEqOrd κ] (m : SortedMap κ υ) (key : κ) (value : υ) :
    SortedMap κ υ :=
  ⟨insertEntry key value m.entries, pairwise_insertEntry key value m.sorted⟩

/-- Keeps the entries that pass a test. -/
def filter (m : SortedMap κ υ) (keep : κ → υ → Bool) : SortedMap κ υ :=
  ⟨m.entries.filter fun entry => keep entry.1 entry.2, m.sorted.filter _⟩

/-- Removes a key. -/
def erase [DecidableEq κ] (m : SortedMap κ υ) (key : κ) : SortedMap κ υ :=
  m.filter fun k _ => k ≠ key

/-- Applies a function to every value. -/
def mapValues (m : SortedMap κ υ) (f : κ → υ → ω) : SortedMap κ ω :=
  ⟨m.entries.map fun entry => (entry.1, f entry.1 entry.2), by
    simpa [List.pairwise_map] using m.sorted⟩

variable [Std.TransOrd κ] [Std.LawfulEqOrd κ]

/-- Inserts a list of entries one after the other, so a later one wins. -/
def insertAll (m : SortedMap κ υ) (entries : List (κ × υ)) : SortedMap κ υ :=
  entries.foldl (fun acc entry => acc.insert entry.1 entry.2) m

/-- The map of a list of entries, of which a later one with the same key wins. -/
def ofList (entries : List (κ × υ)) : SortedMap κ υ :=
  insertAll empty entries

/-- The map of a list of entries, of which the first one with the same key wins. -/
def ofListFirst (entries : List (κ × υ)) : SortedMap κ υ :=
  ofList entries.reverse

end SortedMap

end SealedExchange
