import Mathlib.Logic.Relation
import SealedExchange.Peer.Registry
import SealedExchange.Proofs.Exchange.Delivery
import SealedExchange.Proofs.Peer.Directory

/-! # Keys stay where they are

Listings are judged by what was known before any of them is placed, so what a batch says about a key
counts for nothing against the key's present url, unless the batch comes from there. Nothing that is
known is forgotten, and the node's own keys stay at the node's own url.
-/

namespace SealedExchange

-- Unification would otherwise compare urls by trimming a text that is not known.
attribute [local irreducible] Url.normalize

/-- What a directory keeps of an earlier one: the node's url, the keys that have a url, the nodes,
and that there was an exchange with a node. -/
structure Directory.Keeps (d d' : Directory) : Prop where
  url : d'.url = d.url
  keys : ∀ key, (d.urlOf? key).isSome → (d'.urlOf? key).isSome
  peers : ∀ other ∈ d.peers, other ∈ d'.peers
  contacts : ∀ other contact, d.parties.get? other = some (some contact) →
    ∃ later, d'.parties.get? other = some (some later)

namespace Directory.Keeps

variable {d d' d'' : Directory}

theorem refl (d : Directory) : d.Keeps d :=
  ⟨rfl, fun _ h => h, fun _ h => h, fun _ contact h => ⟨contact, h⟩⟩

theorem trans (h : d.Keeps d') (h' : d'.Keeps d'') : d.Keeps d'' where
  url := h'.url.trans h.url
  keys key hkey := h'.keys key (h.keys key hkey)
  peers other hpeer := h'.peers other (h.peers other hpeer)
  contacts other contact hget :=
    let ⟨later, hlater⟩ := h.contacts other contact hget
    h'.contacts other later hlater

end Directory.Keeps

namespace Registry

variable {r r' first : Registry} {source url : String} {listings : List Listing}
  {parties : List String} {moment : Int64} {key : PublicKey}

/-! ## Admission -/

theorem isLocal_iff : r.isLocal key = true ↔ key ∈ r.localKeys := decide_eq_true_iff

theorem admits_iff {l : Listing} : r.admits source l = true ↔
    l.key ∉ r.localKeys ∧ ∀ current, r.directory.urlOf? l.key = some current →
      Url.same current (Url.normalize l.url) ∨ Url.same current source := by
  rw [admits, Bool.and_eq_true, Bool.not_eq_true', ← Bool.not_eq_true, isLocal_iff]
  apply and_congr_right
  intro _
  split
  next hnone => simp [hnone]
  next current hsome => simp [hsome]

/-! ## One batch -/

@[simp] theorem localKeys_merge :
    (r.merge source listings parties moment).localKeys = r.localKeys := rfl

@[simp] theorem url_merge :
    (r.merge source listings parties moment).directory.url = r.directory.url := by
  simp [merge]

/-- The last admitted listing of a key counts. -/
theorem urlOf?_merge : (r.merge source listings parties moment).directory.urlOf? key =
    (((listings.filter (r.admits (Url.normalize source))).reverse.find? fun l => l.key = key).map
      fun l => Url.normalize l.url).or (r.directory.urlOf? key) := by
  rw [← Directory.urlOf?_placeAll]
  simp [merge, Directory.urlOf?]

theorem mem_of_mem_merge {a : Listing}
    (ha : a ∈ (r.merge source listings parties moment).directory.listings) :
    a ∈ r.directory.listings ∨ ∃ l ∈ listings, a = l.normalized := by
  rw [merge, Directory.listings_markContacted, Directory.listings_learnAll] at ha
  rcases Directory.mem_of_mem_placeAll ha with hold | ⟨l, hl, rfl⟩
  · exact .inl hold
  · exact .inr ⟨l, List.mem_of_mem_filter hl, rfl⟩

theorem mem_peers_merge (other : String) :
    other ∈ (r.merge source listings parties moment).directory.peers ↔
      other ∈ r.directory.peers ∨
        ((∃ party ∈ parties, other = Url.normalize party) ∨
          other = Url.normalize (Url.normalize source)) ∧ other ≠ r.directory.url := by
  have hlearned (d : Directory) (ls : List Listing) : other ∈ (d.placeAll ls).peers ↔
      other ∈ d.peers := by
    simp [Directory.peers]
  simp only [merge, Directory.mem_peers_markContacted, Directory.mem_peers_learnAll, hlearned,
    Directory.url_learnAll, Directory.url_placeAll, or_and_right, or_assoc]

/-- A batch leaves the url of a key alone, or an admitted listing of the batch sets it. -/
theorem urlOf?_merge_cases (r : Registry) (source : String) (listings : List Listing)
    (parties : List String) (moment : Int64) (key : PublicKey) :
    (r.merge source listings parties moment).directory.urlOf? key = r.directory.urlOf? key ∨
      ∃ l ∈ listings, l.key = key ∧ r.admits (Url.normalize source) l ∧
        (r.merge source listings parties moment).directory.urlOf? key =
          some (Url.normalize l.url) := by
  rw [urlOf?_merge]
  cases hfind : (listings.filter (r.admits (Url.normalize source))).reverse.find?
      fun l => l.key = key with
  | none => exact .inl rfl
  | some l =>
    have hkey : l.key = key := by simpa using List.find?_some hfind
    have hmem := List.mem_filter.mp (List.mem_reverse.mp (List.mem_of_find?_eq_some hfind))
    exact .inr ⟨l, hmem.1, hkey, hmem.2, rfl⟩

theorem urlOf?_merge_of_local (hlocal : key ∈ r.localKeys) :
    (r.merge source listings parties moment).directory.urlOf? key = r.directory.urlOf? key := by
  obtain hsame | ⟨l, -, rfl, hadmits, -⟩ :=
    urlOf?_merge_cases r source listings parties moment key
  · exact hsame
  · exact absurd hlocal (admits_iff.mp hadmits).1

/-- A key stays at its url, up to case, if what is taken over comes from another url. -/
theorem stays_of_merge (hurl : r.directory.urlOf? key = some url)
    (hsource : ¬Url.same url (Url.normalize source)) :
    ∃ url', (r.merge source listings parties moment).directory.urlOf? key = some url' ∧
      Url.same url' url := by
  obtain hsame | ⟨l, -, rfl, hadmits, hplaced⟩ :=
    urlOf?_merge_cases r source listings parties moment key
  · exact ⟨url, hsame.trans hurl, Url.same_self url⟩
  · rcases (admits_iff.mp hadmits).2 url hurl with hnear | hfrom
    · exact ⟨_, hplaced, Url.same_comm url _ ▸ hnear⟩
    · exact absurd hfrom hsource

/-- What comes from the url of a key counts: the last listing of the key decides. -/
theorem urlOf?_merge_of_source (hremote : key ∉ r.localKeys)
    (hurl : r.directory.urlOf? key = some url) (hsource : Url.same url (Url.normalize source)) :
    (r.merge source listings parties moment).directory.urlOf? key =
      ((listings.reverse.find? fun l => l.key = key).map fun l => Url.normalize l.url).or
        (some url) := by
  rw [urlOf?_merge, hurl, ← List.filter_reverse, List.find?_filter]
  congr 3
  funext l
  -- Every listing of the key is admitted, so filtering them makes no difference to the search.
  by_cases heq : l.key = key
  · subst heq
    have hadmits : r.admits (Url.normalize source) l = true := by
      refine admits_iff.mpr ⟨hremote, ?_⟩
      intro current hcurrent
      cases hcurrent.symm.trans hurl
      exact .inr hsource
    simp [hadmits]
  · simp [heq]

theorem keeps_merge : r.directory.Keeps (r.merge source listings parties moment).directory where
  url := url_merge
  keys key hkey := by
    obtain hsame | ⟨l, -, -, -, hplaced⟩ :=
      urlOf?_merge_cases r source listings parties moment key
    · rwa [hsame]
    · simp [hplaced]
  peers other hpeer := (mem_peers_merge other).mpr (.inl hpeer)
  contacts other contact hget := by
    rw [merge, Directory.get?_markContacted]
    split
    next => exact ⟨moment, rfl⟩
    next => exact ⟨contact, Directory.get?_learnAll_of_some parties (by simpa using hget)⟩

/-! ## Any number of batches -/

/-- One registry is another one after what some node said was taken over. -/
def Merges (r r' : Registry) : Prop :=
  ∃ source listings parties moment, r' = r.merge source listings parties moment

/-- A registry that pins the keys as the first registry of the node does. -/
structure Pinned (first r : Registry) : Prop where
  localKeys : r.localKeys = first.localKeys
  /-- No key has two urls. -/
  unambiguous : r.directory.Unambiguous
  /-- Each of the node's own keys has the url that it had at first. -/
  own : ∀ key ∈ first.localKeys, ∃ url,
    first.directory.urlOf? key = some url ∧ r.directory.urlOf? key = some url
  /-- The node is not among the nodes it knows. -/
  elsewhere : r.directory.url ∉ r.directory.peers

theorem pinned_new (url : String) (localKeys : SortedSet PublicKey) (bootstrap : List String) :
    (new url localKeys bootstrap).Pinned (new url localKeys bootstrap) where
  localKeys := rfl
  unambiguous := by
    have hempty : (Directory.new url).Unambiguous := fun a ha => by cases ha
    have hplaced := hempty.placeAll (localKeys.elems.map fun key =>
      ({ key, url := (Directory.new url).url } : Listing).normalized)
    simpa [Directory.Unambiguous, new] using hplaced
  own key hkey := by
    suffices h : ((new url localKeys bootstrap).directory.urlOf? key).isSome by
      obtain ⟨own, hown⟩ := Option.isSome_iff_exists.mp h
      exact ⟨own, hown, hown⟩
    have hplaced : (((Directory.new url).placeAll (localKeys.elems.map fun key =>
        ({ key, url := (Directory.new url).url } : Listing).normalized)).urlOf? key).isSome := by
      rw [Directory.urlOf?_placeAll, Option.isSome_or, Option.isSome_map, List.find?_isSome.mpr]
      · rfl
      · exact ⟨_, List.mem_reverse.mpr (List.mem_map_of_mem hkey), by simp⟩
    simpa [new, Directory.urlOf?] using hplaced
  elsewhere := by
    rw [new, Directory.mem_peers_learnAll, Directory.url_learnAll]
    rintro (hpeer | hnew)
    · rw [Directory.peers, Directory.parties_placeAll] at hpeer
      cases hpeer
    · exact hnew.2 rfl

theorem Pinned.step (h : first.Pinned r) (hstep : Merges r r') : first.Pinned r' := by
  obtain ⟨source, listings, parties, moment, rfl⟩ := hstep
  constructor
  · exact h.localKeys
  · have hplaced := h.unambiguous.placeAll (listings.filter (r.admits (Url.normalize source)))
    simpa [Directory.Unambiguous, merge] using hplaced
  · intro key hkey
    rw [← h.localKeys] at hkey
    rw [urlOf?_merge_of_local hkey]
    exact h.own key (h.localKeys ▸ hkey)
  · rw [url_merge, mem_peers_merge]
    rintro (hknown | ⟨-, hother⟩)
    · exact h.elsewhere hknown
    · exact hother rfl

theorem pinned_run {localKeys : SortedSet PublicKey} {bootstrap : List String}
    (hrun : Relation.ReflTransGen Merges (new url localKeys bootstrap) r) :
    (new url localKeys bootstrap).Pinned r := by
  induction hrun with
  | refl => exact pinned_new url localKeys bootstrap
  | tail _ hstep ih => exact ih.step hstep

theorem keeps_run (hrun : Relation.ReflTransGen Merges r r') : r.directory.Keeps r'.directory := by
  induction hrun with
  | refl => exact .refl _
  | tail _ hstep ih =>
    obtain ⟨source, listings, parties, moment, rfl⟩ := hstep
    exact ih.trans keeps_merge

/-- Whatever batches a node takes over, keys are pinned, nothing that was ever known is forgotten,
and the next batch leaves a key where it is, up to case, unless it comes from there. -/
theorem pinned_of_run {localKeys : SortedSet PublicKey} {bootstrap : List String}
    (hrun : Relation.ReflTransGen Merges (new url localKeys bootstrap) r) :
    (new url localKeys bootstrap).Pinned r ∧
      (∀ r', Relation.ReflTransGen Merges r r' → r.directory.Keeps r'.directory) ∧
      ∀ source listings parties moment key current, r.directory.urlOf? key = some current →
        ¬Url.same current (Url.normalize source) →
        ∃ later, (r.merge source listings parties moment).directory.urlOf? key = some later ∧
          Url.same later current :=
  ⟨pinned_run hrun, fun _ => keeps_run,
    fun _ _ _ _ _ _ hurl hsource => stays_of_merge hurl hsource⟩

/-- A node with one key of its own that has learned of another node and of a key there. -/
def acquainted : Registry :=
  (new "http://self" (.ofList [.filled 1]) ["http://other/"]).merge "http://other"
    [⟨.filled 2, "http://Other/"⟩] [] 1

/-- A stranger names a key of another node, twice, and a key of the node itself. -/
theorem pinned_of_run_stranger :
    (new "http://self" (.ofList [.filled 1]) ["http://other/"]).Pinned acquainted ∧
      ∃ later, (acquainted.merge "http://stranger" [⟨.filled 2, "http://stranger"⟩,
          ⟨.filled 1, "http://stranger"⟩, ⟨.filled 2, "http://OTHER"⟩] ["http://self/"]
          2).directory.urlOf? (.filled 2) = some later ∧ Url.same later "http://Other" := by
  have hrun : Relation.ReflTransGen Merges
      (new "http://self" (.ofList [.filled 1]) ["http://other/"]) acquainted :=
    .single ⟨_, _, _, _, rfl⟩
  obtain ⟨hpinned, -, hstays⟩ := pinned_of_run hrun
  exact ⟨hpinned, hstays _ _ _ _ _ _ (by decide +kernel) (by decide +kernel)⟩

end Registry

end SealedExchange
