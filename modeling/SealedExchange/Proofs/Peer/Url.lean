import SealedExchange.Proofs.Peer.Honest

/-! # Normal forms of urls

A url is put in normal form in one pass: the blanks around it are left out and then the slashes at
its end. If a blank stands before these slashes, then the blank becomes the end of the url, and the
next pass takes it away. So urls that are put in normal form again, as those of listings and parties
are, stay what they were exactly if no blank stands there.
-/

namespace SealedExchange

-- Unification would otherwise compare urls by trimming a text that is not known.
attribute [local irreducible] Text.trim Url.normalize

namespace Url

variable {url : String}

/-- Neither blanks nor slashes stand at the end of a url, and no blank at its start. -/
structure IsNormal (url : String) : Prop where
  first : ∀ c ∈ url.toList.head?, Text.isBlank c = false
  last : ∀ c ∈ url.toList.getLast?, Text.isBlank c = false
  solid : ∀ c ∈ url.toList.getLast?, c ≠ '/'

/-- When the blanks around a url are left out, no blank stands before the slashes at its end. -/
def Tight (url : String) : Prop :=
  ∀ front c slashes, (Text.trim url).toList = front ++ c :: slashes → (∀ d ∈ slashes, d = '/') →
    Text.isBlank c = false

/-- A url with no blanks inside it is tight. -/
theorem tight_of_any_eq_false (h : (Text.trim url).toList.any Text.isBlank = false) :
    Tight url := by
  intro front c slashes hparts _
  have hc : c ∈ (Text.trim url).toList := by simp [hparts]
  exact Bool.eq_false_iff.mpr (List.any_eq_false.mp h c hc)

/-! ## One pass -/

theorem first_normalize (url : String) :
    ∀ c ∈ (normalize url).toList.head?, Text.isBlank c = false := by
  intro c hc
  obtain ⟨rest, hrest⟩ := List.head?_eq_some_iff.mp hc
  have hprefix : (normalize url).toList <+: url.toList.dropWhile Text.isBlank := by
    rw [toList_normalize, Text.toList_trim, Text.trimChars, Text.dropEndWhile_eq_rdropWhile]
    exact (List.rdropWhile_prefix _ _).trans (List.rdropWhile_prefix _ _)
  obtain ⟨more, hmore⟩ := hprefix
  have hfirst := List.head?_dropWhile_not Text.isBlank url.toList
  rw [← hmore, hrest] at hfirst
  exact hfirst

theorem solid_normalize (url : String) : ∀ c ∈ (normalize url).toList.getLast?, c ≠ '/' := by
  intro c hc hslash
  rw [toList_normalize] at hc
  obtain ⟨hne, rfl⟩ := List.mem_getLast?_eq_getLast hc
  exact List.rdropWhile_last_not _ _ hne (beq_iff_eq.mpr hslash)

theorem last_trim (url : String) :
    ∀ c ∈ (Text.trim url).toList.getLast?, Text.isBlank c = false := by
  intro c hc
  rw [Text.toList_trim, Text.trimChars, Text.dropEndWhile_eq_rdropWhile] at hc
  obtain ⟨hne, rfl⟩ := List.mem_getLast?_eq_getLast hc
  simpa using List.rdropWhile_last_not _ _ hne

theorem normalize_of_isNormal (h : IsNormal url) : normalize url = url := by
  rw [← String.toList_inj, toList_normalize, Text.toList_trim, Text.trimChars,
    Text.dropWhile_of_head? h.first, Text.dropEndWhile_of_getLast? h.last,
    ← Text.dropEndWhile_eq_rdropWhile, Text.dropEndWhile_of_getLast?]
  intro c hc
  exact beq_eq_false_iff_ne.mpr (h.solid c hc)

/-- In the normal form the character before the slashes comes last. -/
theorem isNormal_normalize_iff : IsNormal (normalize url) ↔ Tight url := by
  constructor
  · intro hnormal front c slashes hparts hslashes
    by_contra hblank
    have hc : ¬(c == '/') = true := by
      intro heq
      rw [eq_of_beq heq] at hblank
      exact hblank (by decide)
    have hdropped : (normalize url).toList = front ++ [c] := by
      rw [toList_normalize, hparts, ← List.singleton_append, ← List.append_assoc,
        ← Text.dropEndWhile_eq_rdropWhile,
        Text.dropEndWhile_append _ fun d hd => beq_iff_eq.mpr (hslashes d hd)]
      exact List.rdropWhile_concat_neg _ _ _ hc
    exact hblank (hnormal.last c (by rw [hdropped]; simp))
  · intro htight
    refine ⟨first_normalize url, fun c hc => ?_, solid_normalize url⟩
    obtain ⟨front, hfront⟩ := List.getLast?_eq_some_iff.mp hc
    refine htight front c ((Text.trim url).toList.rtakeWhile (· == '/')) ?_ ?_
    · rw [← List.singleton_append, ← List.append_assoc, ← hfront, toList_normalize,
        List.rdropWhile_append_rtakeWhile]
    · intro d hd
      have hslash := List.mem_rtakeWhile_imp hd
      exact eq_of_beq hslash

/-! ## More passes -/

theorem normalize_eq_self_iff : normalize url = url ↔ IsNormal url := by
  refine ⟨fun heq => ?_, normalize_of_isNormal⟩
  -- What the pass leaves as it is had no blanks around it.
  have htrim : Text.trim url = url := by
    have hsublist : (normalize url).toList.Sublist (Text.trim url).toList := by
      rw [toList_normalize]
      exact (List.rdropWhile_prefix _ _).sublist
    rw [heq, Text.toList_trim] at hsublist
    rw [← String.toList_inj, Text.toList_trim]
    exact (Text.trimChars_sublist _).antisymm hsublist
  constructor
  · simpa only [heq] using first_normalize url
  · simpa only [htrim] using last_trim url
  · simpa only [heq] using solid_normalize url

theorem normalize_normalize_iff : normalize (normalize url) = normalize url ↔ Tight url :=
  normalize_eq_self_iff.trans isNormal_normalize_iff

/-- A pass that takes something away is not undone by the next one. -/
theorem normalize_thrice_iff :
    normalize (normalize (normalize url)) = normalize url ↔ Tight url := by
  rw [← normalize_normalize_iff]
  constructor
  · intro hthrice
    have hsublist := toList_normalize_sublist (normalize (normalize url))
    rw [hthrice] at hsublist
    exact String.toList_inj.mp ((toList_normalize_sublist _).antisymm hsublist)
  · intro htwice
    rw [htwice, htwice]

end Url

open Url (Tight)

/-! ## Listings and parties -/

namespace Directory

variable {d : Directory} {url : String}

/-- A listing in normal form keeps its url when it is placed. -/
theorem urlOf?_place_normalized_iff (l : Listing) :
    (d.place l.normalized).urlOf? l.key = some l.normalized.url ↔ Tight l.url := by
  rw [urlOf?_place, if_pos (key_normalized l).symm, Option.some_inj]
  exact Url.normalize_normalize_iff

/-- A party in normal form keeps its url when it is learned. -/
theorem mem_peers_learn_normalize_iff (hurl : Url.normalize url ≠ d.url)
    (hnew : Url.normalize url ∉ d.peers) :
    Url.normalize url ∈ (d.learn (Url.normalize url)).peers ↔ Tight url := by
  rw [mem_peers_learn, or_iff_right hnew, and_iff_left hurl, eq_comm]
  exact Url.normalize_normalize_iff

end Directory

namespace Registry

/-- The url of a node in normal form. -/
theorem url_new (url : String) (localKeys : SortedSet PublicKey) (bootstrap : List String) :
    (new url localKeys bootstrap).directory.url = Url.normalize url := by
  rw [new, Directory.url_learnAll, Directory.url_placeAll]
  rfl

/-- Putting a url in normal form once more leaves it as it is, and so do placing a listing, learning
of a party and listing a new node's own keys, each of them exactly if the url is tight. -/
theorem settles_iff_tight (url : String) :
    (Url.normalize (Url.normalize url) = Url.normalize url ↔ Tight url) ∧
    (∀ (d : Directory) (key : PublicKey), (d.place (Listing.mk key url).normalized).urlOf? key =
      some (Listing.mk key url).normalized.url ↔ Tight url) ∧
    (∀ d : Directory, Url.normalize url ≠ d.url → Url.normalize url ∉ d.peers →
      (Url.normalize url ∈ (d.learn (Url.normalize url)).peers ↔ Tight url)) ∧
    ∀ (localKeys : SortedSet PublicKey) (bootstrap : List String), ∀ key ∈ localKeys,
      ((new url localKeys bootstrap).directory.urlOf? key =
        some (new url localKeys bootstrap).directory.url ↔ Tight url) := by
  refine ⟨Url.normalize_normalize_iff, fun d key => ?_, fun d hurl hnew => ?_,
    fun localKeys bootstrap key hkey => ?_⟩
  · exact Directory.urlOf?_place_normalized_iff ⟨key, url⟩
  · exact Directory.mem_peers_learn_normalize_iff hurl hnew
  · rw [urlOf?_new_of_mem hkey, url_new, Option.some_inj]
    exact Url.normalize_thrice_iff

/-- Two slashes at the end are taken away at once. A blank before the slash is taken away by the
second pass, and so the key is not where the node is. -/
theorem settles_iff_tight_slashes :
    (new "http://a//" (.ofList [.filled 1]) []).directory.urlOf? (.filled 1) =
      some (new "http://a//" (.ofList [.filled 1]) []).directory.url ∧
    Url.normalize "http://b//" ∈
      ((new "http://a" .empty []).directory.learn (Url.normalize "http://b//")).peers ∧
    (new "http://a /" (.ofList [.filled 1]) []).directory.urlOf? (.filled 1) ≠
      some (new "http://a /" (.ofList [.filled 1]) []).directory.url := by
  have htight : Tight "http://a//" := Url.tight_of_any_eq_false (by decide +kernel)
  have hloose : ¬Tight "http://a /" := by
    intro h
    have hblank := h "http://a".toList ' ' ['/'] (by decide +kernel)
      (List.forall_mem_singleton.mpr rfl)
    exact absurd hblank (by decide)
  refine ⟨?_, ?_, fun hlisted => hloose ?_⟩
  · exact ((settles_iff_tight "http://a//").2.2.2 _ [] _ (by decide)).mpr htight
  · exact ((settles_iff_tight "http://b//").2.2.1 _ (by decide +kernel) (by decide +kernel)).mpr
      (Url.tight_of_any_eq_false (by decide +kernel))
  · exact ((settles_iff_tight "http://a /").2.2.2 _ [] _ (by decide)).mp hlisted

/-- The normal form of a url is not always a normal form, and a node's own key is not always listed
at the node's url. -/
theorem not_normalize_normalize_blank :
    Url.normalize (Url.normalize "http://a /") ≠ Url.normalize "http://a /" ∧
    (new "http://a /" (.ofList [.filled 1]) []).directory.urlOf? (.filled 1) = some "http://a" ∧
    (new "http://a /" (.ofList [.filled 1]) []).directory.url = "http://a " := by
  decide +kernel

end Registry

end SealedExchange
