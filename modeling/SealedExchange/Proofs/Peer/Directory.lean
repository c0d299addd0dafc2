import Mathlib.Data.List.Flatten
import SealedExchange.Peer.Directory
import SealedExchange.Proofs.Binary.Laws
import SealedExchange.Proofs.Payload.RoundTrip
import SealedExchange.Proofs.Sorted.Map
import SealedExchange.Proofs.Sorted.Set
import SealedExchange.Proofs.Text.Cutting

/-! # What the operations of a directory do

Placing listings concerns the keys they name: such a key has one url afterwards, the last one it was
given. Learning of nodes and recording contacts concerns the parties, none of which is forgotten. A
directory that is sent to another node arrives as it is.
-/

namespace SealedExchange

namespace Url

theorem same_iff {a b : String} :
    same a b = true ↔ a.toList.map Text.lowerChar = b.toList.map Text.lowerChar := by
  rw [same, Text.sameIgnoringCase, beq_iff_eq]

@[simp] theorem same_self (a : String) : same a a = true := same_iff.mpr rfl

theorem same_comm (a b : String) : same a b = same b a := by
  rw [Bool.eq_iff_iff, same_iff, same_iff, eq_comm]

theorem toList_normalize (url : String) :
    (normalize url).toList = (Text.trim url).toList.rdropWhile (· == '/') := by
  rw [normalize, Text.trimEndSlashes, String.toList_ofList, Text.dropEndWhile_eq_rdropWhile]

theorem toList_normalize_sublist (url : String) :
    (normalize url).toList.Sublist url.toList := by
  rw [toList_normalize, Text.toList_trim]
  exact (List.rdropWhile_prefix _ _).sublist.trans (Text.trimChars_sublist _)

/-- Blanks and slashes that are left out make a url shorter. -/
theorem length_encode_normalize_le (url : String) :
    (Text.Utf8.encode (normalize url)).length ≤ (Text.Utf8.encode url).length := by
  rw [Text.Utf8.encode, Text.Utf8.encode, Text.Utf8.encodeChars, Text.Utf8.encodeChars]
  exact ((toList_normalize_sublist url).flatMap String.utf8EncodeChar).length_le

end Url

namespace Directory

-- Unification would otherwise compare urls by trimming a text that is not known.
attribute [local irreducible] Url.normalize

@[simp] theorem key_normalized (l : Listing) : l.normalized.key = l.key := rfl

variable {d : Directory} {key : PublicKey} {url other : String}

/-! ## Placing listings -/

/-- No key is listed under two urls. -/
def Unambiguous (d : Directory) : Prop :=
  ∀ a ∈ d.listings, ∀ b ∈ d.listings, a.key = b.key → a = b

theorem mem_place {l a : Listing} :
    a ∈ (d.place l).listings ↔ a = l.normalized ∨ a ∈ d.listings ∧ a.key ≠ l.key := by
  simp [place, SortedSet.mem_insert, SortedSet.mem_filter]

theorem urlOf?_place (l : Listing) : (d.place l).urlOf? key =
    if key = l.key then some (Url.normalize l.url) else d.urlOf? key := by
  simp only [urlOf?, place, SortedSet.insert, SortedSet.filter]
  split
  next heq =>
    subst heq
    rw [SortedSet.find?_insertElem_of_unique (by simp)]
    · rfl
    · intro old hold
      simpa using (List.mem_filter.mp hold).2
  next hne =>
    rw [SortedSet.find?_insertElem_of_not (by simpa [eq_comm] using hne), List.find?_filter]
    congr 2
    funext old
    by_cases heq : old.key = key
    · simp [heq, hne]
    · simp [heq]

theorem Unambiguous.place (h : d.Unambiguous) (l : Listing) : (d.place l).Unambiguous := by
  intro a ha b hb heq
  rcases mem_place.mp ha with rfl | ⟨ha, hane⟩
  · rcases mem_place.mp hb with rfl | ⟨-, hbne⟩
    · rfl
    · rw [key_normalized] at heq
      exact absurd heq.symm hbne
  · rcases mem_place.mp hb with rfl | ⟨hb, -⟩
    · rw [key_normalized] at heq
      exact absurd heq hane
    · exact h a ha b hb heq

theorem Unambiguous.placeAll (h : d.Unambiguous) (ls : List Listing) :
    (d.placeAll ls).Unambiguous := by
  induction ls generalizing d with
  | nil => exact h
  | cons l ls ih => exact ih (h.place l)

theorem mem_of_mem_placeAll {ls : List Listing} {a : Listing} (ha : a ∈ (d.placeAll ls).listings) :
    a ∈ d.listings ∨ ∃ l ∈ ls, a = l.normalized := by
  induction ls generalizing d with
  | nil => exact .inl ha
  | cons l ls ih =>
    rcases ih ha with hplaced | ⟨l', hl', rfl⟩
    · rcases mem_place.mp hplaced with rfl | ⟨hold, -⟩
      · exact .inr ⟨l, List.mem_cons_self, rfl⟩
      · exact .inl hold
    · exact .inr ⟨l', .tail _ hl', rfl⟩

/-- The last listing of a key counts. -/
theorem urlOf?_placeAll (ls : List Listing) : (d.placeAll ls).urlOf? key =
    ((ls.reverse.find? fun l => l.key = key).map fun l => Url.normalize l.url).or
      (d.urlOf? key) := by
  induction ls generalizing d with
  | nil => rfl
  | cons l ls ih =>
    rw [placeAll, List.foldl_cons, ← placeAll, ih, urlOf?_place, List.reverse_cons,
      List.find?_append]
    by_cases heq : key = l.key
    · cases ls.reverse.find? fun l => l.key = key <;> simp [heq]
    · have hne : ¬l.key = key := fun h => heq h.symm
      cases ls.reverse.find? fun l => l.key = key <;> simp [heq, hne]

@[simp] theorem url_placeAll (ls : List Listing) : (d.placeAll ls).url = d.url := by
  induction ls generalizing d with
  | nil => rfl
  | cons l ls ih => exact ih

@[simp] theorem parties_placeAll (ls : List Listing) : (d.placeAll ls).parties = d.parties := by
  induction ls generalizing d with
  | nil => rfl
  | cons l ls ih => exact ih

theorem length_placeAll_le (d : Directory) (ls : List Listing) :
    (d.placeAll ls).listings.elems.length ≤ d.listings.elems.length + ls.length := by
  induction ls generalizing d with
  | nil => exact Nat.le_refl _
  | cons l ls ih =>
    have hrest := ih (d.place l)
    have hplace : (d.place l).listings.elems.length ≤
        (d.listings.elems.filter fun old => old.key ≠ l.key).length + 1 :=
      SortedSet.length_insertElem_le _ _
    have hfilter := List.length_filter_le (fun old => decide (old.key ≠ l.key)) d.listings.elems
    rw [List.length_cons]
    change ((d.place l).placeAll ls).listings.elems.length ≤ _
    omega

/-! ## Learning of nodes -/

theorem mem_peers_iff : other ∈ d.peers ↔ (d.parties.get? other).isSome :=
  d.parties.mem_keys_iff other

theorem learn_eq (url : String) : d.learn url = { d with parties := (d.learn url).parties } := by
  simp only [learn]
  split <;> rfl

theorem get?_learn (url other : String) : (d.learn url).parties.get? other =
    if other = Url.normalize url ∧ other ≠ d.url ∧ other ∉ d.peers then some none
    else d.parties.get? other := by
  simp only [mem_peers_iff, ← SortedMap.contains_eq_isSome, learn]
  by_cases heq : other = Url.normalize url
  · rw [← heq]
    by_cases hknown : other = d.url ∨ d.parties.contains other = true
    · rw [if_pos hknown, if_neg fun h => hknown.elim h.2.1 h.2.2]
    · rw [if_neg hknown, if_pos ⟨rfl, not_or.mp hknown⟩, SortedMap.get?_insert, if_pos rfl]
  · simp only [heq, false_and, ↓reduceIte]
    split
    next => rfl
    next => rw [SortedMap.get?_insert, if_neg heq]

theorem mem_peers_learn (url other : String) : other ∈ (d.learn url).peers ↔
    other ∈ d.peers ∨ other = Url.normalize url ∧ other ≠ d.url := by
  rw [mem_peers_iff, get?_learn]
  split
  next h => exact iff_of_true rfl (.inr ⟨h.1, h.2.1⟩)
  next h =>
    rw [← mem_peers_iff]
    constructor
    · exact .inl
    · rintro (hpeer | ⟨heq, hown⟩)
      · exact hpeer
      · exact Classical.not_not.mp fun hnew => h ⟨heq, hown, hnew⟩

@[simp] theorem url_learnAll (urls : List String) : (d.learnAll urls).url = d.url := by
  induction urls generalizing d with
  | nil => rfl
  | cons url urls ih => rw [learnAll, List.foldl_cons, ← learnAll, ih, learn_eq]

@[simp] theorem listings_learnAll (urls : List String) :
    (d.learnAll urls).listings = d.listings := by
  induction urls generalizing d with
  | nil => rfl
  | cons url urls ih => rw [learnAll, List.foldl_cons, ← learnAll, ih, learn_eq]

theorem get?_learnAll_of_some {contact : Option Int64} (urls : List String)
    (hknown : d.parties.get? other = some contact) :
    (d.learnAll urls).parties.get? other = some contact := by
  induction urls generalizing d with
  | nil => exact hknown
  | cons url urls ih =>
    have hpeer : other ∈ d.peers := mem_peers_iff.mpr (by simp [hknown])
    apply ih
    rw [get?_learn, if_neg fun h => h.2.2 hpeer, hknown]

theorem mem_peers_learnAll (urls : List String) (other : String) :
    other ∈ (d.learnAll urls).peers ↔
      other ∈ d.peers ∨ (∃ url ∈ urls, other = Url.normalize url) ∧ other ≠ d.url := by
  induction urls generalizing d with
  | nil => simp [learnAll]
  | cons url urls ih =>
    have hurl : (d.learn url).url = d.url := by rw [learn_eq]
    rw [learnAll, List.foldl_cons, ← learnAll, ih, mem_peers_learn, hurl]
    simp only [List.mem_cons, or_and_right, exists_or, exists_eq_left, or_assoc]

theorem length_learnAll_le (d : Directory) (urls : List String) :
    (d.learnAll urls).parties.entries.length ≤ d.parties.entries.length + urls.length := by
  induction urls generalizing d with
  | nil => exact Nat.le_refl _
  | cons url urls ih =>
    have hrest := ih (d.learn url)
    have hlearn : (d.learn url).parties.entries.length ≤ d.parties.entries.length + 1 := by
      simp only [learn]
      split
      next => exact Nat.le_succ _
      next => exact SortedMap.length_insertEntry_le _ _ _
    rw [List.length_cons]
    change ((d.learn url).learnAll urls).parties.entries.length ≤ _
    omega

/-! ## Contacts -/

theorem markContacted_eq (url : String) (moment : Int64) :
    d.markContacted url moment = { d with parties := (d.markContacted url moment).parties } := by
  simp only [markContacted]
  split <;> rfl

@[simp] theorem url_markContacted (url : String) (moment : Int64) :
    (d.markContacted url moment).url = d.url := by
  rw [markContacted_eq]

@[simp] theorem listings_markContacted (url : String) (moment : Int64) :
    (d.markContacted url moment).listings = d.listings := by
  rw [markContacted_eq]

theorem get?_markContacted (url other : String) (moment : Int64) :
    (d.markContacted url moment).parties.get? other =
      if other = Url.normalize url ∧ other ≠ d.url then some (some moment)
      else d.parties.get? other := by
  simp only [markContacted]
  by_cases heq : other = Url.normalize url
  · rw [← heq]
    by_cases hown : other = d.url
    · rw [if_pos hown, if_neg fun h => h.2 hown]
    · rw [if_neg hown, if_pos ⟨rfl, hown⟩, SortedMap.get?_insert, if_pos rfl]
  · simp only [heq, false_and, ↓reduceIte]
    split
    next => rfl
    next => rw [SortedMap.get?_insert, if_neg heq]

theorem mem_peers_markContacted (url other : String) (moment : Int64) :
    other ∈ (d.markContacted url moment).peers ↔
      other ∈ d.peers ∨ other = Url.normalize url ∧ other ≠ d.url := by
  rw [mem_peers_iff, get?_markContacted]
  split
  next h => exact iff_of_true rfl (.inr h)
  next h => rw [← mem_peers_iff, or_iff_left h]

theorem length_markContacted_le (d : Directory) (url : String) (moment : Int64) :
    (d.markContacted url moment).parties.entries.length ≤ d.parties.entries.length + 1 := by
  simp only [markContacted]
  split
  next => exact Nat.le_succ _
  next => exact SortedMap.length_insertEntry_le _ _ _

/-! ## Writing -/

/-- The parts of a directory are no longer than a length field can say. -/
structure Fits (d : Directory) : Prop where
  url : (Text.Utf8.encode d.url).length < Bytes.count 8
  listings : d.listings.elems.length < Bytes.count 8 ∧ ∀ l ∈ d.listings.elems,
    (Text.Utf8.encode l.url).length < Bytes.count 8
  parties : d.parties.entries.length < Bytes.count 8 ∧ ∀ entry ∈ d.parties.entries,
    (Text.Utf8.encode entry.1).length < Bytes.count 8

theorem Fits.exists_encode (h : d.Fits) : ∃ bytes, d.encode = .ok bytes := by
  have hlistings : (Binary.Format.list listingFormat).Writes d.listings.elems := by
    refine Binary.Format.writes_list h.listings.1 fun l hl => ?_
    exact Binary.Format.writes_pair (PublicKey.writes_format l.key)
      (Binary.Format.writes_text (h.listings.2 l hl))
  have hparties : (Binary.Format.list
      (Binary.Format.text.pair (.option .signed))).Writes d.parties.entries := by
    refine Binary.Format.writes_list h.parties.1 fun entry hentry => ?_
    exact Binary.Format.writes_pair (Binary.Format.writes_text (h.parties.2 entry hentry))
      (Binary.Format.writes_option fun moment _ => Binary.Format.writes_signed moment)
  exact Binary.Format.writes_pair (Binary.Format.writes_text h.url)
    (Binary.Format.writes_pair hlistings hparties)

theorem lawful_listingFormat : listingFormat.Lawful :=
  Binary.Format.lawful_map
    (Binary.Format.lawful_pair PublicKey.lawful_format Binary.Format.lawful_text) fun _ => rfl

/-- The layout of the parts of a directory: its url, listings, and parties with the moments of the
last exchanges. -/
def partsFormat : Binary.Format (String × List Listing × List (String × Option Int64)) :=
  Binary.Format.text.pair <| (Binary.Format.list listingFormat).pair <|
    .list (Binary.Format.text.pair (.option .signed))

theorem lawful_partsFormat : partsFormat.Lawful := by
  apply Binary.Format.lawful_pair Binary.Format.lawful_text
  apply Binary.Format.lawful_pair (Binary.Format.lawful_list lawful_listingFormat)
  exact Binary.Format.lawful_list (Binary.Format.lawful_pair Binary.Format.lawful_text
    (Binary.Format.lawful_option Binary.Format.lawful_signed))

theorem lawful_format : format.Lawful :=
  Binary.Format.lawful_map lawful_partsFormat fun d => by simp

/-- A directory is read as it was written. -/
theorem decode_of_encode {bytes : Bytes} (hencode : d.encode = .ok bytes) :
    decode bytes = .ok d :=
  Binary.Format.decode_of_write lawful_format hencode

end Directory

end SealedExchange
