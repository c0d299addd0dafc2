import SealedExchange.Proofs.Peer.Announcement

/-! # Honest announcements

Whatever a node has heard from others, its directory lists its own keys at its own url, and at no
other one. If these listings are proven, the announcement is taken over: whoever has checked it has
the announcer's keys at the announcer's url from then on, and the announcer among its contacts.
-/

namespace SealedExchange

-- Unification would otherwise compare urls by trimming a text that is not known.
attribute [local irreducible] Url.normalize

namespace Directory

variable {d : Directory} {key : PublicKey} {url : String}

theorem mem_listings_of_urlOf? (hurl : d.urlOf? key = some url) : ⟨key, url⟩ ∈ d.listings := by
  obtain ⟨l, hfind, rfl⟩ := Option.map_eq_some_iff.mp hurl
  have hkey : l.key = key := by simpa using List.find?_some hfind
  rw [← hkey]
  exact List.mem_of_find?_eq_some hfind

/-- Two directories can be written, and so can one that takes over all that the other one says. -/
structure FitsWith (d d' : Directory) : Prop where
  left : d.Fits
  right : d'.Fits
  listings : d.listings.elems.length + d'.listings.elems.length < Bytes.count 8
  parties : d.parties.entries.length + d'.parties.entries.length + 1 < Bytes.count 8

end Directory

namespace Registry

variable {r announcing : Registry} {url url' : String} {localKeys keys' : SortedSet PublicKey}
  {bootstrap parties : List String} {listings : List Listing} {moment : Int64} {key : PublicKey}

/-! ## A node about itself -/

/-- A registry as a node at a url that manages some keys may come to have it. -/
def Reached (url : String) (localKeys : SortedSet PublicKey) (r : Registry) : Prop :=
  ∃ bootstrap, Relation.ReflTransGen Merges (new url localKeys bootstrap) r

theorem Reached.merge (h : r.Reached url localKeys) (source : String) (listings : List Listing)
    (parties : List String) (moment : Int64) :
    (r.merge source listings parties moment).Reached url localKeys := by
  obtain ⟨bootstrap, hrun⟩ := h
  exact ⟨bootstrap, hrun.tail ⟨source, listings, parties, moment, rfl⟩⟩

/-- The keys of a node are at its own url, and nowhere else. -/
structure Guards (url : String) (localKeys : SortedSet PublicKey) (r : Registry) : Prop where
  url_eq : r.directory.url = url
  localKeys_eq : r.localKeys = localKeys
  unambiguous : r.directory.Unambiguous
  own : ∀ key ∈ localKeys, r.directory.urlOf? key = some url

/-- The url of a node's own key is put in normal form three times: for the directory, for the
listing and when this is placed. -/
theorem urlOf?_new_of_mem (hkey : key ∈ localKeys) :
    (new url localKeys bootstrap).directory.urlOf? key =
      some (Url.normalize (Url.normalize (Url.normalize url))) := by
  obtain ⟨other, hother, -⟩ := (pinned_new url localKeys bootstrap).own key hkey
  have hlisted := Directory.mem_listings_of_urlOf? hother
  rw [new, Directory.listings_learnAll] at hlisted
  rcases Directory.mem_of_mem_placeAll hlisted with hnone | ⟨l, hl, heq⟩
  · cases hnone
  · obtain ⟨key', -, rfl⟩ := List.mem_map.mp hl
    exact hother.trans (congrArg (fun l => some (Listing.url l)) heq)

theorem urlOf?_new (hnormal : Url.normalize url = url) (hkey : key ∈ localKeys) :
    (new url localKeys bootstrap).directory.urlOf? key = some url := by
  rw [urlOf?_new_of_mem hkey, hnormal, hnormal, hnormal]

theorem Reached.guards (h : r.Reached url localKeys) (hnormal : Url.normalize url = url) :
    r.Guards url localKeys := by
  obtain ⟨bootstrap, hrun⟩ := h
  have hpinned := pinned_run hrun
  refine ⟨?_, hpinned.localKeys, hpinned.unambiguous, fun key hkey => ?_⟩
  · rw [(keeps_run hrun).url, new, Directory.url_learnAll, Directory.url_placeAll]
    exact hnormal
  · obtain ⟨own, hfirst, hown⟩ := hpinned.own key hkey
    rw [hown, ← hfirst, urlOf?_new hnormal hkey]

/-! ## A node about another one -/

/-- A node knows where another node's keys are, and has had an exchange with it. -/
structure Knows (url : String) (keys : SortedSet PublicKey) (moment : Int64) (r : Registry) :
    Prop where
  keys : ∀ key ∈ keys, r.directory.urlOf? key = some url
  contacted : r.directory.parties.get? url = some (some moment)

/-- Keys that a batch lists at the batch's own url alone are there afterwards, unless they were
somewhere else before. -/
theorem knows_merge (hnormal : Url.normalize url' = url') (hurl : url' ≠ r.directory.url)
    (hremote : ∀ key ∈ keys', key ∉ r.localKeys)
    (hview : ∀ key ∈ keys', ∀ current, r.directory.urlOf? key = some current →
      Url.same current url' = true)
    (hlisted : ∀ key ∈ keys', ⟨key, url'⟩ ∈ listings)
    (hsole : ∀ l ∈ listings, l.key ∈ keys' → l.url = url') :
    (r.merge url' listings parties moment).Knows url' keys' moment := by
  constructor
  · intro key hkey
    have hadmits : r.admits (Url.normalize url') ⟨key, url'⟩ = true := by
      refine admits_iff.mpr ⟨hremote key hkey, fun current hcurrent => .inl ?_⟩
      rw [hnormal]
      exact hview key hkey current hcurrent
    have hfound : ((listings.filter (r.admits (Url.normalize url'))).reverse.find?
        fun l => l.key = key).isSome := by
      rw [List.find?_isSome]
      exact ⟨⟨key, url'⟩, List.mem_reverse.mpr (List.mem_filter.mpr ⟨hlisted key hkey, hadmits⟩),
        by simp⟩
    obtain ⟨l, hl⟩ := Option.isSome_iff_exists.mp hfound
    have hlkey : l.key = key := by simpa using List.find?_some hl
    have hmem := (List.mem_filter.mp (List.mem_reverse.mp (List.mem_of_find?_eq_some hl))).1
    rw [urlOf?_merge, hl, Option.map_some, Option.some_or, hsole l hmem (hlkey ▸ hkey), hnormal]
  · rw [merge, Directory.get?_markContacted, hnormal, hnormal, if_pos]
    exact ⟨rfl, by simpa using hurl⟩

theorem length_listings_merge_le (r : Registry) (source : String) (listings : List Listing)
    (parties : List String) (moment : Int64) :
    (r.merge source listings parties moment).directory.listings.elems.length ≤
      r.directory.listings.elems.length + listings.length := by
  rw [merge, Directory.listings_markContacted, Directory.listings_learnAll]
  exact Nat.le_trans (Directory.length_placeAll_le _ _)
    (Nat.add_le_add_left (List.length_filter_le _ _) _)

theorem length_parties_merge_le (r : Registry) (source : String) (listings : List Listing)
    (parties : List String) (moment : Int64) :
    (r.merge source listings parties moment).directory.parties.entries.length ≤
      r.directory.parties.entries.length + parties.length + 1 := by
  rw [merge]
  refine Nat.le_trans (Directory.length_markContacted_le _ _ _) (Nat.succ_le_succ ?_)
  have hlearned := Directory.length_learnAll_le
    (r.directory.placeAll (listings.filter (r.admits (Url.normalize source)))) parties
  rwa [Directory.parties_placeAll] at hlearned

/-- What is taken over of an announcement can be written down where the parts are few enough. -/
theorem fits_merge {announced : Directory} (hfits : r.directory.FitsWith announced)
    (hlistings : ∀ l ∈ listings, l ∈ announced.listings)
    (hcount : listings.length ≤ announced.listings.elems.length) :
    (r.merge announced.url listings announced.peers moment).directory.Fits := by
  have hshorter (u : String) (hu : (Text.Utf8.encode u).length < Bytes.count 8) :
      (Text.Utf8.encode (Url.normalize u)).length < Bytes.count 8 :=
    Nat.lt_of_le_of_lt (Url.length_encode_normalize_le u) hu
  have hparty (d : Directory) (hd : d.Fits) : ∀ other ∈ d.peers,
      (Text.Utf8.encode other).length < Bytes.count 8 := by
    intro other hother
    obtain ⟨entry, hentry, rfl⟩ := List.mem_map.mp hother
    exact hd.parties.2 entry hentry
  have hpeers : announced.peers.length = announced.parties.entries.length := List.length_map _
  have hlistingCount := length_listings_merge_le r announced.url listings announced.peers moment
  have hpartyCount := length_parties_merge_le r announced.url listings announced.peers moment
  have hroom := hfits.listings
  have hroom' := hfits.parties
  constructor
  · rw [url_merge]
    exact hfits.left.url
  · refine ⟨by omega, fun l hl => ?_⟩
    rcases mem_of_mem_merge hl with hold | ⟨l', hl', rfl⟩
    · exact hfits.left.listings.2 l hold
    · exact hshorter _ (hfits.right.listings.2 l' (hlistings l' hl'))
  · refine ⟨by omega, fun entry hentry => ?_⟩
    have hpeer := (mem_peers_merge entry.1).mp (List.mem_map_of_mem hentry)
    rcases hpeer with hold | ⟨⟨party, hmem, heq⟩ | heq, -⟩
    · exact hparty _ hfits.left _ hold
    · rw [heq]
      exact hshorter _ (hparty _ hfits.right party hmem)
    · rw [heq]
      exact hshorter _ (hshorter _ hfits.right.url)

end Registry

namespace Discovery

variable {d : Discovery} {r announcing : Registry} {url url' : String}
  {keys keys' : SortedSet PublicKey} {replies : List (Listing × Reply)} {moment : Int64}

/-- An honest announcement whose own listings are proven is taken over. -/
theorem finish_of_honest (hr : r.Guards url keys) (ha : announcing.Guards url' keys')
    (hannounced : d.announced = announcing.directory) (hnormal : Url.normalize url' = url')
    (hne : ∃ key, key ∈ keys') (hurl : url' ≠ url) (hremote : ∀ key ∈ keys', key ∉ keys)
    (hview : ∀ key ∈ keys', ∀ current, r.directory.urlOf? key = some current →
      Url.same current url' = true)
    (hposted : ∀ l reply, (l, reply) ∈ replies → l ∈ d.announced.listings)
    (hproves : ∀ key ∈ keys', (⟨key, url'⟩, .ok d.challenge) ∈ replies) :
    ∃ r', d.finish r replies moment = .ok r' ∧
      r' = r.merge d.announced.url (d.proven replies) d.announced.peers moment ∧
      r'.Knows url' keys' moment := by
  have hsource : d.announced.url = url' := by rw [hannounced, ha.url_eq]
  obtain ⟨key, hkey⟩ := hne
  have hvouches : d.vouches ⟨key, url'⟩ = true := by
    rw [vouches_iff, hsource]
    exact Url.same_self _
  refine ⟨_, finish_eq_ok_iff.mpr ⟨⟨_, hproves key hkey, hvouches⟩, rfl⟩, rfl, ?_⟩
  rw [hsource]
  refine Registry.knows_merge hnormal (hr.url_eq ▸ hurl) (fun key hkey => ?_) hview
    (fun key hkey => mem_proven.mpr (hproves key hkey)) fun l hl hlkey => ?_
  · rw [hr.localKeys_eq]
    exact hremote key hkey
  · have hmem : l ∈ announcing.directory.listings :=
      hannounced ▸ hposted l _ (mem_proven.mp hl)
    have hown := Directory.mem_listings_of_urlOf? (ha.own l.key hlkey)
    rw [ha.unambiguous l hmem ⟨l.key, url'⟩ hown rfl]

end Discovery

end SealedExchange
