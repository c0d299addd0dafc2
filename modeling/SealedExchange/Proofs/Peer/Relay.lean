import Mathlib.Data.List.Perm.Basic
import SealedExchange.Proofs.Exchange.Readable
import SealedExchange.Proofs.Peer.Announcement
import SealedExchange.Proofs.Peer.Challenge

/-! # Relayed challenges

The url of an announcement is whatever the announcer writes there, and the holder of a key opens a
challenge for whoever posts it. So a key leaves its url exactly if an announcement in the name of
that url is taken over and the last listing of the key to be proven is elsewhere, and any url will
do from where challenges are forwarded to the holder.
-/

namespace SealedExchange

-- Unification would otherwise compare urls by trimming a text that is not known.
attribute [local irreducible] Url.normalize

namespace Discovery

variable {d : Discovery} {e : Enclave} {codec : Codec} {r : Registry} {announced : Directory}
  {entropy : Entropy} {replies : List (Listing × Reply)} {key : PublicKey} {url : String}

/-- An announcement takes a key away from a url: it is in the name of that url and vouched for, and
the last listing of the key that is proven is at another url. -/
structure Removes (d : Discovery) (replies : List (Listing × Reply)) (key : PublicKey)
    (url : String) : Prop where
  inName : Url.same url (Url.normalize d.announced.url)
  vouched : ∃ l, (l, .ok d.challenge) ∈ replies ∧ d.vouches l
  last : ∃ l, (d.proven replies).reverse.find? (fun l => l.key = key) = some l ∧
    ¬Url.same url (Url.normalize l.url)

/-- Whatever is posted for a listing is opened by the honest node or not at all, because its own url
leads to it and others can do no more than forward to it what they are asked. -/
structure Relayed (d : Discovery) (honest : Node) (replies : List (Listing × Reply)) : Prop where
  replied : (replies.map Prod.fst).Perm (d.posts.map Prod.fst)
  answered : ∀ l answer, (l, .ok answer) ∈ replies →
    ∃ body, (l, body) ∈ d.posts ∧ honest.answerChallenge body = .ok answer

/-! ## What takes a key away -/

theorem stays_of_finish {r' : Registry} {moment : Int64} (hremote : key ∉ r.localKeys)
    (hknown : r.directory.urlOf? key = some url) (hfinish : d.finish r replies moment = .ok r') :
    (∃ later, r'.directory.urlOf? key = some later ∧ Url.same later url) ↔
      ¬d.Removes replies key url := by
  obtain ⟨hvouched, rfl⟩ := finish_eq_ok_iff.mp hfinish
  by_cases hname : Url.same url (Url.normalize d.announced.url) = true
  -- In the name of the key's url every proven listing of the key counts, and the last one decides.
  · rw [Registry.urlOf?_merge_of_source hremote hknown hname]
    cases hlast : (d.proven replies).reverse.find? fun l => l.key = key with
    | none =>
      apply iff_of_true ⟨url, rfl, Url.same_self url⟩
      intro hremoves
      obtain ⟨l, hl, -⟩ := hremoves.last
      cases hlast.symm.trans hl
    | some last =>
      constructor
      · rintro ⟨later, hlater, hsame⟩ hremoves
        obtain ⟨l, hl, haway⟩ := hremoves.last
        cases hlast.symm.trans hl
        cases hlater
        exact haway (Url.same_comm url _ ▸ hsame)
      · intro hstays
        refine ⟨_, rfl, Classical.not_not.mp ?_⟩
        intro haway
        exact hstays ⟨hname, hvouched, last, hlast, Url.same_comm url _ ▸ haway⟩
  · exact iff_of_true (Registry.stays_of_merge hknown hname) fun hremoves => hname hremoves.inName

/-! ## Forwarding -/

theorem candidates_of_remote (hremote : ∀ l ∈ announced.listings, l.key ∉ r.localKeys) :
    candidates r announced = announced.listings.elems := by
  apply List.filter_eq_self.mpr
  intro l hl
  rw [Bool.not_eq_true', ← Bool.not_eq_true, Registry.isLocal_iff]
  exact hremote l hl

/-- Every listing is proven, one after the other. -/
def allProven (d : Discovery) (ls : List Listing) : List (Listing × Reply) :=
  ls.map fun l => (l, .ok d.challenge)

@[simp] theorem map_fst_allProven (ls : List Listing) :
    (d.allProven ls).map Prod.fst = ls := by
  simp [allProven, Function.comp_def]

theorem proven_allProven (ls : List Listing) : d.proven (d.allProven ls) = ls := by
  induction ls with
  | nil => rfl
  | cons l ls ih =>
    rw [allProven, List.map_cons, ← allProven, proven, List.filterMap_cons, ← proven, ih]
    simp

end Discovery

namespace Node

variable {suite : CipherSuite} {secrets secrets' : List SecretKey} {asked honest n : Node}
  {d : Discovery} {announced : Directory} {replies : List (Listing × Reply)} {key : PublicKey}
  {url : String}

/-- A known key stays at its url, up to case, unless the announcement takes it away. -/
theorem stays_iff_not_removes {moment : Int64} (hremote : key ∉ n.registry.localKeys)
    (hknown : n.registry.directory.urlOf? key = some url) :
    (∃ later, (n.conclude d replies moment).node.registry.directory.urlOf? key = some later ∧
      Url.same later url) ↔ ¬d.Removes replies key url := by
  cases hfinish : d.finish n.registry replies moment with
  | error reason =>
    have hconclude : (n.conclude d replies moment).node = n := by
      rw [conclude, finishDiscovery, hfinish]
      rfl
    rw [hconclude]
    apply iff_of_true ⟨url, hknown, Url.same_self url⟩
    intro hremoves
    cases hfinish.symm.trans (Discovery.finish_eq_ok_iff.mpr ⟨hremoves.vouched, rfl⟩)
  | ok registry =>
    have hconclude := node_conclude_of_finish (map_eq_ok_iff.mpr ⟨registry, hfinish, rfl⟩)
    rw [hconclude]
    exact Discovery.stays_of_finish hremote hknown hfinish

/-- An announcement in the name of a url that lists a key there and at another url, too. -/
def pretence (key : PublicKey) (url thief : String) : Directory where
  url
  listings := .ofList [⟨key, url⟩, ⟨key, thief⟩]

theorem perm_pretence {thief : String} (hthief : thief ≠ url) :
    [⟨key, url⟩, ⟨key, thief⟩].Perm (pretence key url thief).listings.elems := by
  have hne : (⟨key, url⟩ : Listing) ≠ ⟨key, thief⟩ := fun heq =>
    hthief (congrArg Listing.url heq).symm
  apply (List.perm_ext_iff_of_nodup (by simp [hne]) (SortedSet.nodup_elems _)).mpr
  intro l
  exact SortedSet.mem_ofList.symm

section Forwarding

variable (hexact : suite.Exact) (hmutual : suite.Mutual)
  (hasked : Enclave.ofSecrets? suite secrets = some asked.vault.enclave)
  (hhonest : Enclave.ofSecrets? suite secrets' = some honest.vault.enclave)

include hexact hmutual hasked hhonest

/-- Keys that the honest node holds can be proven at any urls and in any order. -/
theorem relayed_allProven (hjson : asked.vault.codec = .json)
    (hjson' : honest.vault.codec = .json)
    (hremote : ∀ l ∈ announced.listings, l.key ∉ asked.registry.localKeys)
    (hmanages : ∀ l ∈ announced.listings, honest.vault.enclave.manages l.key = true)
    {ls : List Listing} (hperm : ls.Perm announced.listings.elems) (entropy : Entropy) :
    let d := (asked.startDiscovery announced entropy).1
    d.Relayed honest (d.allProven ls) := by
  intro d
  have hposts : d.posts.map Prod.fst = announced.listings.elems := by
    rw [← Discovery.candidates_of_remote hremote]
    apply Discovery.posts_of_seals
    intro key entropy
    rw [hjson]
    obtain ⟨secret, hsecret⟩ := Enclave.exists_secret_defaultKey hasked
    exact Challenge.exists_sealChallenge hsecret (fun _ _ => ⟨_, rfl⟩) entropy
  refine ⟨by rwa [Discovery.map_fst_allProven, hposts], ?_⟩
  intro l answer hreply
  obtain ⟨l', hl', heq⟩ := List.mem_map.mp hreply
  cases heq
  have hmem : l ∈ announced.listings.elems := hperm.mem_iff.mp hl'
  obtain ⟨⟨l, body⟩, hpost, rfl⟩ := List.mem_map.mp (hposts ▸ hmem)
  exact ⟨body, hpost, answerChallenge_of_mem_posts hexact.opens_sealed hmutual
    (Enclave.keyed_of_ofSecrets? hasked) (Enclave.keyed_of_ofSecrets? hhonest)
    (hjson'.trans hjson.symm) (hmanages _ hmem) hpost⟩

/-- A key that is known at one url is moved to any other one if its holder opens the challenges for
both: by an announcement in the name of the first url, whoever makes it. -/
theorem exists_relay (hjson : asked.vault.codec = .json) (hjson' : honest.vault.codec = .json)
    (hremote : key ∉ asked.registry.localKeys)
    (hmanages : honest.vault.enclave.manages key = true)
    (hknown : asked.registry.directory.urlOf? key = some (Url.normalize url)) {thief : String}
    (hthief : thief ≠ url) (entropy : Entropy) (moment : Int64) :
    ∃ announced replies, (asked.startDiscovery announced entropy).1.Relayed honest replies ∧
      (asked.conclude (asked.startDiscovery announced entropy).1 replies
        moment).node.registry.directory.urlOf? key = some (Url.normalize thief) := by
  let d := (asked.startDiscovery (pretence key url thief) entropy).1
  let ls : List Listing := [⟨key, url⟩, ⟨key, thief⟩]
  have hkey (l : Listing) (hl : l ∈ (pretence key url thief).listings) : l.key = key := by
    rcases List.mem_pair.mp (SortedSet.mem_ofList.mp hl) with rfl | rfl <;> rfl
  have hrelayed := relayed_allProven hexact hmutual hasked hhonest hjson hjson'
    (fun l hl => (hkey l hl).symm ▸ hremote) (fun l hl => (hkey l hl).symm ▸ hmanages)
    (perm_pretence hthief) entropy
  refine ⟨pretence key url thief, d.allProven ls, hrelayed, ?_⟩
  have hfinish : d.finish asked.registry (d.allProven ls) moment = .ok _ :=
    Discovery.finish_eq_ok_iff.mpr ⟨⟨⟨key, url⟩, List.mem_cons_self, Url.same_self _⟩, rfl⟩
  have hsource : Url.same (Url.normalize url) (Url.normalize d.announced.url) = true :=
    Url.same_self _
  rw [node_conclude_of_finish (map_eq_ok_iff.mpr ⟨_, hfinish, rfl⟩),
    Registry.urlOf?_merge_of_source hremote hknown hsource, Discovery.proven_allProven]
  simp [ls]

end Forwarding

end Node

/-! ## Two nodes and a thief -/

/-- A node that knows a key at the url of the node that alone holds it keeps the key there, whatever
is announced, as long as everyone else can do no more than forward challenges to that node. -/
def CipherSuite.KeepsKeys (suite : CipherSuite) : Prop :=
  ∀ (secrets secrets' : List SecretKey) (asked honest : Node) (url : String)
    (bootstrap : List String) (announced : Directory) (entropy : Entropy)
    (replies : List (Listing × Reply)) (moment : Int64) (key : PublicKey),
    Enclave.ofSecrets? suite secrets = some asked.vault.enclave →
    Enclave.ofSecrets? suite secrets' = some honest.vault.enclave →
    honest.vault.codec = asked.vault.codec →
    Relation.ReflTransGen Registry.Merges
      (.new url (.ofList asked.vault.enclave.managedKeys) bootstrap) asked.registry →
    honest.vault.enclave.manages key = true → asked.vault.enclave.manages key = false →
    asked.registry.directory.urlOf? key = some honest.registry.directory.url →
    (asked.startDiscovery announced entropy).1.Relayed honest replies →
    ∃ later, (asked.conclude (asked.startDiscovery announced entropy).1 replies
        moment).node.registry.directory.urlOf? key = some later ∧
      Url.same later honest.registry.directory.url

namespace Node

open CipherSuite (labelled mutual_labelled)

/-- The holder of a key. -/
def holder : Node :=
  .new { Vault.bystander {} with enclave := Vault.holding 2 [] } "http://holder" []

/-- The host after it has learned of the key from its holder. -/
def informed : Node :=
  { host with
    registry := host.registry.merge "http://holder" [⟨.filled 2, "http://holder"⟩] [] 1 }

/-- A thief announces the key at the holder's url and at its own, in the name of the holder. -/
def theft : Discovery :=
  (informed.startDiscovery (pretence (.filled 2) "http://holder" "http://thief")
    (Vault.repeating 5)).1

/-- The host after the key was proven at one url and then at another one. -/
def afterTheft (first last : String) : Node :=
  (informed.conclude theft (theft.allProven [⟨.filled 2, first⟩, ⟨.filled 2, last⟩]) 2).node

/-- If both listings are proven, the key is where it was proven last. -/
theorem stays_iff_not_removes_theft :
    (∃ later, (afterTheft "http://thief" "http://holder").registry.directory.urlOf? (.filled 2) =
      some later ∧ Url.same later "http://holder") ∧
    ¬∃ later, (afterTheft "http://holder" "http://thief").registry.directory.urlOf? (.filled 2) =
      some later ∧ Url.same later "http://holder" := by
  have hremote : .filled 2 ∉ informed.registry.localKeys := by decide +kernel
  have hknown : informed.registry.directory.urlOf? (.filled 2) = some "http://holder" := by
    decide +kernel
  have hname : Url.same "http://holder" (Url.normalize theft.announced.url) = true := by
    decide +kernel
  constructor
  · rw [afterTheft, stays_iff_not_removes hremote hknown]
    rintro ⟨-, -, l, hlast, haway⟩
    rw [Discovery.proven_allProven] at hlast
    cases hlast
    exact haway hname
  · rw [afterTheft, stays_iff_not_removes hremote hknown, Classical.not_not]
    refine ⟨hname, ⟨_, List.mem_cons_self, Url.same_self _⟩, ⟨.filled 2, "http://thief"⟩, ?_,
      by decide +kernel⟩
    rw [Discovery.proven_allProven]
    rfl

/-- With nothing but forwarding a thief moves a key to its own url. -/
theorem not_keepsKeys_labelled : labelled.Exact ∧ labelled.Mutual ∧ ¬labelled.KeepsKeys := by
  refine ⟨CipherSuite.exact_labelled, mutual_labelled, fun hkeeps => ?_⟩
  have hasked : Enclave.ofSecrets? labelled _ = some informed.vault.enclave :=
    Vault.ofSecrets?_holding 1 []
  have hhonest : Enclave.ofSecrets? labelled _ = some holder.vault.enclave :=
    Vault.ofSecrets?_holding 2 []
  have hrun : Relation.ReflTransGen Registry.Merges host.registry informed.registry :=
    .single ⟨_, _, _, _, rfl⟩
  have hmanages : holder.vault.enclave.manages (.filled 2) = true := by decide +kernel
  have hknown : informed.registry.directory.urlOf? (.filled 2) =
      some (Url.normalize "http://holder") := by decide +kernel
  have hthief : "http://thief" ≠ "http://holder" := by decide
  obtain ⟨announced, replies, hrelayed, hmoved⟩ :=
    exists_relay CipherSuite.exact_labelled mutual_labelled hasked hhonest rfl rfl
      (by decide +kernel) hmanages hknown hthief (Vault.repeating 5) 2
  obtain ⟨later, hlater, hsame⟩ := hkeeps _ _ informed holder _ _ announced (Vault.repeating 5)
    replies 2 _ hasked hhonest rfl hrun hmanages (by decide +kernel) hknown hrelayed
  cases hmoved.symm.trans hlater
  revert hsame
  decide +kernel

end Node

end SealedExchange
