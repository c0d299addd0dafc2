import SealedExchange.Proofs.Payload.WellFormed
import SealedExchange.Proofs.Peer.Directory

/-! # Directories on the way

A directory that is written down is read as it was, with the moments of the exchanges, whatever
follows it. The bytes of another one may have its listings and parties in any order and repeat them:
reading puts them in order, and of parties with the same url the first one counts.
-/

namespace SealedExchange

namespace Bytes

/-- Byte strings are compared as words are. -/
theorem compare_eq_lt_iff {a b : Bytes} : compare a b = .lt ↔ a < b := by
  induction a generalizing b with
  | nil => cases b <;> simp
  | cons x a ih =>
    cases b with
    | nil => simp
    | cons y b =>
      rw [List.cons_lt_cons_iff, List.compare_cons_cons, Ordering.then_eq_lt, ih,
        Std.compare_eq_lt, Std.LawfulEqCmp.compare_eq_iff_eq]

end Bytes

theorem Text.compare_eq_lt_iff {a b : String} : compare a b = .lt ↔ a < b :=
  compareOfLessAndEq_eq_lt

/-- Listings are in order if their keys are, or the keys are the same and the urls are in order. -/
theorem Listing.compare_eq_lt_iff {a b : Listing} :
    compare a b = .lt ↔ a.key.bytes < b.key.bytes ∨ a.key = b.key ∧ a.url < b.url := by
  change (compare a.key b.key).then (compare a.url b.url) = .lt ↔ _
  rw [Ordering.then_eq_lt, Std.LawfulEqCmp.compare_eq_iff_eq, Text.compare_eq_lt_iff]
  exact or_congr Bytes.compare_eq_lt_iff Iff.rfl

namespace Directory

variable {d : Directory} {bytes : Bytes} {url : String} {listings : List Listing}
  {parties : List (String × Option Int64)}

/-- The directory with some parts. -/
def ofParts (url : String) (listings : List Listing) (parties : List (String × Option Int64)) :
    Directory :=
  { url, listings := .ofList listings, parties := .ofListFirst parties }

/-- A directory holds some parts in order, and of those that are repeated the first one. -/
structure Arranges (d : Directory) (url : String) (listings : List Listing)
    (parties : List (String × Option Int64)) : Prop where
  url_eq : d.url = url
  mem_listings : ∀ l, l ∈ d.listings.elems ↔ l ∈ listings
  listings_sorted : d.listings.elems.Pairwise fun a b =>
    a.key.bytes < b.key.bytes ∨ a.key = b.key ∧ a.url < b.url
  mem_parties : ∀ other moment,
    (other, moment) ∈ d.parties.entries ↔ parties.lookup other = some moment
  parties_sorted : d.parties.entries.Pairwise fun a b => a.1 < b.1

theorem arranges_ofParts (url : String) (listings : List Listing)
    (parties : List (String × Option Int64)) :
    (ofParts url listings parties).Arranges url listings parties where
  url_eq := rfl
  mem_listings _ := SortedSet.mem_ofList
  listings_sorted := (SortedSet.sorted _).imp Listing.compare_eq_lt_iff.mp
  mem_parties other moment := by
    rw [SortedMap.mem_entries_iff, ofParts, SortedMap.get?_ofListFirst]
  parties_sorted := (SortedMap.sorted _).imp Text.compare_eq_lt_iff.mp

/-- There is one directory at most that holds some parts in order. -/
theorem Arranges.eq_ofParts (h : d.Arranges url listings parties) :
    d = ofParts url listings parties := by
  have hparts := arranges_ofParts url listings parties
  have hlistings : d.listings = (ofParts url listings parties).listings :=
    SortedSet.ext_mem fun l => (h.mem_listings l).trans (hparts.mem_listings l).symm
  have hparties : d.parties = (ofParts url listings parties).parties := by
    refine SortedMap.ext_get? fun other => Option.ext fun moment => ?_
    rw [← SortedMap.mem_entries_iff, ← SortedMap.mem_entries_iff, h.mem_parties,
      hparts.mem_parties]
  have hurl := h.url_eq
  cases d
  cases hurl
  cases hlistings
  cases hparties
  rfl

/-- What is read is the directory of the parts that the bytes begin with. -/
theorem decode_eq_ok_iff : decode bytes = .ok d ↔ ∃ url listings parties rest,
    partsFormat.read bytes = .ok ((url, listings, parties), rest) ∧
      d.Arranges url listings parties := by
  rw [decode, Binary.Format.decode, map_eq_ok_iff]
  constructor
  · rintro ⟨⟨d, rest⟩, hread, rfl⟩
    obtain ⟨⟨⟨url, listings, parties⟩, rest⟩, hparts, heq⟩ := map_eq_ok_iff.mp hread
    cases heq
    exact ⟨url, listings, parties, rest, hparts, arranges_ofParts url listings parties⟩
  · rintro ⟨url, listings, parties, rest, hparts, harranges⟩
    exact ⟨(d, rest), map_eq_ok_iff.mpr ⟨_, hparts, by rw [harranges.eq_ofParts]; rfl⟩, rfl⟩

/-- Whatever parts are laid out, and whatever follows them, their directory is read. -/
theorem decode_of_parts (hwrite : partsFormat.write (url, listings, parties) = .ok bytes)
    (rest : Bytes) : decode (bytes ++ rest) = .ok (ofParts url listings parties) :=
  decode_eq_ok_iff.mpr ⟨url, listings, parties, rest, lawful_partsFormat _ _ _ hwrite,
    arranges_ofParts url listings parties⟩

/-- A directory is laid out as its parts in order. -/
theorem decode_append_of_encode (hencode : d.encode = .ok bytes) (rest : Bytes) :
    decode (bytes ++ rest) = .ok d := by
  have hparts : ofParts d.url d.listings.elems d.parties.entries = d := by simp [ofParts]
  rw [decode_of_parts hencode, hparts]

/-- A directory is read as it was written, the moments of exchanges included and whatever follows.
Parts in any order may be written, and any bytes that are read at all begin with such parts: what is
read holds these in strict order, each once, and of parties with the same url the first one. -/
theorem transmits :
    (∀ d : Directory, d.Fits → ∃ bytes, d.encode = .ok bytes ∧ decode bytes = .ok d ∧
      ∀ rest, decode (bytes ++ rest) = .ok d) ∧
    (∀ url listings parties bytes, partsFormat.write (url, listings, parties) = .ok bytes →
      ∀ rest, ∃ d, decode (bytes ++ rest) = .ok d ∧ d.Arranges url listings parties) ∧
    ∀ bytes d, decode bytes = .ok d ↔ ∃ url listings parties rest,
      partsFormat.read bytes = .ok ((url, listings, parties), rest) ∧
        d.Arranges url listings parties := by
  refine ⟨fun d hfits => ?_, fun url listings parties bytes hwrite rest => ?_,
    fun bytes d => decode_eq_ok_iff⟩
  · obtain ⟨bytes, hencode⟩ := hfits.exists_encode
    exact ⟨bytes, hencode, decode_of_encode hencode, decode_append_of_encode hencode⟩
  · exact ⟨_, decode_of_parts hwrite rest, arranges_ofParts url listings parties⟩

/-! ## A directory that was written out of order -/

/-- A directory with a key at two urls and with a moment long ago. -/
def atlas : Directory :=
  ofParts " http://self/ " [⟨.filled 1, "http://a"⟩, ⟨.filled 1, "http://b"⟩, ⟨.filled 2, ""⟩]
    [("", none), ("http://a", some (-1)), ("http://é", some 7)]

/-- The listings of the directory in another order, one of them twice. -/
def shuffledListings : List Listing :=
  [⟨.filled 2, ""⟩, ⟨.filled 1, "http://b"⟩, ⟨.filled 2, ""⟩, ⟨.filled 1, "http://a"⟩]

/-- The parties of the directory in another order, one of them once more with another moment. -/
def shuffledParties : List (String × Option Int64) :=
  [("http://é", some 7), ("http://a", some (-1)), ("", none), ("http://a", some 5)]

theorem fits_atlas : atlas.Fits where
  url := by decide +kernel
  listings := by decide +kernel
  parties := by decide +kernel

theorem transmits_atlas : atlas.Fits ∧
    (∃ bytes, atlas.encode = .ok bytes ∧ decode bytes = .ok atlas ∧
      ∀ rest, decode (bytes ++ rest) = .ok atlas) ∧
    ∃ bytes, partsFormat.write (" http://self/ ", shuffledListings, shuffledParties) = .ok bytes ∧
      decode bytes = .ok atlas ∧
      atlas.Arranges " http://self/ " shuffledListings shuffledParties := by
  obtain ⟨hforth, hparts, -⟩ := transmits
  obtain ⟨bytes, hwrite⟩ : ∃ bytes,
      partsFormat.write (" http://self/ ", shuffledListings, shuffledParties) = .ok bytes :=
    ⟨_, rfl⟩
  obtain ⟨d, hdecode, harranges⟩ := hparts _ _ _ bytes hwrite []
  have hatlas : ofParts " http://self/ " shuffledListings shuffledParties = atlas := by
    decide +kernel
  rw [List.append_nil, harranges.eq_ofParts, hatlas] at hdecode
  rw [harranges.eq_ofParts, hatlas] at harranges
  exact ⟨fits_atlas, hforth atlas fits_atlas, bytes, hwrite, hdecode, harranges⟩

end Directory

end SealedExchange
