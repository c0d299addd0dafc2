import Mathlib.Data.List.Perm.Basic
import Mathlib.Logic.Relation
import SealedExchange.Proofs.Peer.Announcement

/-! # Replies in any order

The challenges of an announcement are under way at the same time, up to a limit, so their replies
come in any order, and the listings that are proven are placed in that order. If the announcement
lists no key at two urls, then the order makes no difference to what is taken over.
-/

namespace SealedExchange

-- Unification would otherwise compare urls by trimming a text that is not known.
attribute [local irreducible] Url.normalize

namespace Directory

variable {d : Directory} {a b : Listing} {ls ls' : List Listing} {url : String}

/-- No key is listed at two urls, unless their normal forms are the same. -/
def Consistent (d : Directory) : Prop :=
  ∀ a ∈ d.listings, ∀ b ∈ d.listings, a.key = b.key → a.normalized = b.normalized

theorem Unambiguous.consistent (h : d.Unambiguous) : d.Consistent :=
  fun a ha b hb heq => congrArg Listing.normalized (h a ha b hb heq)

/-- The directory without the moment of the last exchange with a node. -/
def withoutMoment (d : Directory) (url : String) : Directory :=
  { d with
    parties := d.parties.mapValues fun other moment => if other = url then none else moment }

/-! ## Placing in any order -/

theorem place_place_comm (hsame : a.key = b.key → a.normalized = b.normalized) :
    (d.place a).place b = (d.place b).place a := by
  have hlistings : ((d.place a).place b).listings = ((d.place b).place a).listings := by
    apply SortedSet.ext_mem
    intro l
    simp only [mem_place]
    by_cases hkey : a.key = b.key
    · rw [hsame hkey, hkey]
    -- Each of the two listings is left alone when the other one is placed.
    · have hab : l = a.normalized → l.key ≠ b.key := by
        rintro rfl
        exact hkey
      have hba : l = b.normalized → l.key ≠ a.key := by
        rintro rfl
        exact Ne.symm hkey
      tauto
  exact congrArg (fun listings => ({ d with listings } : Directory)) hlistings

theorem placeAll_of_perm (hperm : ls.Perm ls')
    (hsame : ∀ a ∈ ls, ∀ b ∈ ls, a.key = b.key → a.normalized = b.normalized) :
    d.placeAll ls = d.placeAll ls' := by
  refine hperm.foldl_eq' ?_ d
  intro a ha b hb d
  exact place_place_comm (hsame a ha b hb)

/-! ## The moment of an exchange -/

theorem withoutMoment_markContacted (url : String) (moment moment' : Int64) :
    (d.markContacted url moment).withoutMoment (Url.normalize url) =
      (d.markContacted url moment').withoutMoment (Url.normalize url) := by
  have hparties : ((d.markContacted url moment).withoutMoment (Url.normalize url)).parties =
      ((d.markContacted url moment').withoutMoment (Url.normalize url)).parties := by
    apply SortedMap.ext_get?
    intro other
    simp only [withoutMoment, SortedMap.get?_mapValues, get?_markContacted]
    by_cases hother : other = Url.normalize url
    · by_cases hown : Url.normalize url = d.url <;> simp [hother, hown]
    · simp [hother]
  rw [withoutMoment, withoutMoment, markContacted_eq url moment, markContacted_eq url moment']
  exact congrArg (fun parties => ({ d with parties } : Directory)) hparties

end Directory

namespace Registry

variable {r : Registry} {listings listings' : List Listing}

theorem merge_of_perm (hperm : listings.Perm listings')
    (hsame : ∀ a ∈ listings, ∀ b ∈ listings, a.key = b.key → a.normalized = b.normalized)
    (source : String) (parties : List String) (moment : Int64) :
    r.merge source listings parties moment = r.merge source listings' parties moment := by
  have hplaced := Directory.placeAll_of_perm (d := r.directory)
    (hperm.filter (r.admits (Url.normalize source))) fun a ha b hb =>
      hsame a (List.mem_of_mem_filter ha) b (List.mem_of_mem_filter hb)
  rw [merge, hplaced, merge]

end Registry

namespace Discovery

variable {d : Discovery} {e : Enclave} {codec : Codec} {r now : Registry} {announced : Directory}
  {challenge : Bytes} {ask : Listing → Bytes → Reply} {limit : Nat} {entropy : Entropy}
  {replies replies' : List (Listing × Reply)}

theorem finish_of_perm (hconsistent : d.announced.Consistent)
    (hposted : ∀ l reply, (l, reply) ∈ replies → l ∈ d.announced.listings)
    (hperm : replies.Perm replies') (moment : Int64) :
    d.finish now replies moment = d.finish now replies' moment := by
  have hproven : (d.proven replies).Perm (d.proven replies') := hperm.filterMap _
  have hlisted (l : Listing) (hl : l ∈ d.proven replies) : l ∈ d.announced.listings :=
    hposted l _ (mem_proven.mp hl)
  have hmerge := Registry.merge_of_perm (r := now) hproven
    (fun a ha b hb => hconsistent a (hlisted a ha) b (hlisted b hb)) d.announced.url
    d.announced.parties.keys moment
  rw [finish, finish, hproven.any_eq, hmerge]

/-- An outcome without the moment of the exchange with the announcer. -/
def timeless (d : Discovery) (outcome : Except DiscoveryError Registry) :
    Except DiscoveryError Registry :=
  outcome.map fun r => { r with directory := r.directory.withoutMoment d.announcer }

/-- The moment of an exchange is recorded with the announcer and nowhere else. -/
theorem timeless_finish (moment moment' : Int64) :
    d.timeless (d.finish now replies moment) = d.timeless (d.finish now replies moment') := by
  rw [finish, finish]
  split
  next =>
    have hdirectory := Directory.withoutMoment_markContacted (Url.normalize d.announced.url)
      moment moment' (d := (now.directory.placeAll ((d.proven replies).filter
        (now.admits (Url.normalize d.announced.url)))).learnAll d.announced.parties.keys)
    exact congrArg (fun directory => Except.ok { now with directory }) hdirectory
  next => rfl

/-! ## Round trips -/

/-- The round trips of the challenges of an announcement: listings that are to be challenged,
challenges that are under way, and the replies in the order in which they came. -/
structure RoundTrips where
  waiting : List Listing
  entropy : Entropy
  underway : List (Listing × Bytes) := []
  replies : List (Listing × Reply) := []

@[simp] theorem sealChallenges_nil (e : Enclave) (codec : Codec) (challenge : Bytes)
    (entropy : Entropy) : (sealChallenges e codec challenge [] entropy).1 = [] :=
  rfl

/-- What is posted and what is replied to it. -/
def answered (ask : Listing → Bytes → Reply) (post : Listing × Bytes) : Listing × Reply :=
  (post.1, ask post.1 post.2)

namespace RoundTrips

/-- The next challenge is sealed and posted as soon as less than a number of them is under way,
and any of those under way may be the next to be replied to. The number is one at least. -/
inductive Step (e : Enclave) (codec : Codec) (challenge : Bytes) (ask : Listing → Bytes → Reply)
    (limit : Nat) : RoundTrips → RoundTrips → Prop
  | post {l waiting entropy entropy' underway replies body}
      (hroom : underway.length < max limit 1)
      (hseal : sealChallenge e codec challenge l.key entropy = (.ok body, entropy')) :
      Step e codec challenge ask limit ⟨l :: waiting, entropy, underway, replies⟩
        ⟨waiting, entropy', underway ++ [(l, body)], replies⟩
  /-- A listing for which no challenge can be sealed is done with. -/
  | skip {l waiting entropy entropy' underway replies reason}
      (hroom : underway.length < max limit 1)
      (hseal : sealChallenge e codec challenge l.key entropy = (.error reason, entropy')) :
      Step e codec challenge ask limit ⟨l :: waiting, entropy, underway, replies⟩
        ⟨waiting, entropy', underway, replies⟩
  | reply {waiting entropy before post after replies} :
      Step e codec challenge ask limit ⟨waiting, entropy, before ++ post :: after, replies⟩
        ⟨waiting, entropy, before ++ after, replies ++ [answered ask post]⟩

/-- Any number of steps. -/
abbrev Steps (e : Enclave) (codec : Codec) (challenge : Bytes) (ask : Listing → Bytes → Reply)
    (limit : Nat) : RoundTrips → RoundTrips → Prop :=
  Relation.ReflTransGen (Step e codec challenge ask limit)

/-- All replies: those that have come and those that are to come. -/
def allReplies (e : Enclave) (codec : Codec) (challenge : Bytes) (ask : Listing → Bytes → Reply)
    (t : RoundTrips) : List (Listing × Reply) :=
  t.replies ++
    (t.underway ++ (sealChallenges e codec challenge t.waiting t.entropy).1).map (answered ask)

variable {t t' : RoundTrips}

theorem Step.allReplies_perm (hstep : Step e codec challenge ask limit t t') :
    (t.allReplies e codec challenge ask).Perm (t'.allReplies e codec challenge ask) := by
  cases hstep with
  | post hroom hseal => simp [allReplies, sealChallenges_cons, hseal]
  | skip hroom hseal => simp [allReplies, sealChallenges_cons, hseal]
  | @reply waiting entropy before post after replies =>
    rw [allReplies, allReplies, List.append_assoc replies, List.perm_append_left_iff,
      List.singleton_append, ← List.map_cons, List.append_assoc, List.append_assoc,
      List.cons_append]
    exact List.perm_middle.map _

theorem Steps.allReplies_perm (hsteps : Steps e codec challenge ask limit t t') :
    (t.allReplies e codec challenge ask).Perm (t'.allReplies e codec challenge ask) := by
  induction hsteps with
  | refl => exact .refl _
  | tail _ hstep ih => exact ih.trans hstep.allReplies_perm

/-! ### Orders that are possible -/

/-- One challenge after the other is possible with any limit. -/
theorem steps_in_order (waiting : List Listing) (entropy : Entropy)
    (replies : List (Listing × Reply)) : ∃ rest,
      Steps e codec challenge ask limit ⟨waiting, entropy, [], replies⟩
        ⟨[], rest, [],
          replies ++ (sealChallenges e codec challenge waiting entropy).1.map (answered ask)⟩ := by
  induction waiting generalizing entropy replies with
  | nil =>
    refine ⟨entropy, ?_⟩
    rw [sealChallenges_nil, List.map_nil, List.append_nil]
  | cons l waiting ih =>
    have hroom : ([] : List (Listing × Bytes)).length < max limit 1 := by simp
    rw [sealChallenges_cons]
    split
    next body rest hseal =>
      obtain ⟨last, hsteps⟩ := ih rest (replies ++ [answered ask (l, body)])
      have hreply : Step e codec challenge ask limit
          ⟨waiting, rest, [] ++ (l, body) :: [], replies⟩
          ⟨waiting, rest, [] ++ [], replies ++ [answered ask (l, body)]⟩ := .reply
      refine ⟨last, .head (.post hroom hseal) (.head hreply ?_)⟩
      simpa using hsteps
    next reason rest hseal =>
      obtain ⟨last, hsteps⟩ := ih rest replies
      exact ⟨last, .head (.skip hroom hseal) hsteps⟩

/-- All challenges are posted before the first reply if the limit allows it. -/
theorem steps_to_underway (e : Enclave) (codec : Codec) (challenge : Bytes)
    (ask : Listing → Bytes → Reply) {waiting : List Listing} {underway : List (Listing × Bytes)}
    (hroom : underway.length + waiting.length ≤ max limit 1) (entropy : Entropy)
    (replies : List (Listing × Reply)) : ∃ rest,
      Steps e codec challenge ask limit ⟨waiting, entropy, underway, replies⟩
        ⟨[], rest, underway ++ (sealChallenges e codec challenge waiting entropy).1, replies⟩ := by
  induction waiting generalizing entropy underway with
  | nil =>
    refine ⟨entropy, ?_⟩
    rw [sealChallenges_nil, List.append_nil]
  | cons l waiting ih =>
    rw [List.length_cons] at hroom
    rw [sealChallenges_cons]
    split
    next body rest hseal =>
      have hposted : (underway ++ [(l, body)]).length + waiting.length ≤ max limit 1 := by
        rw [List.length_append, List.length_singleton]
        omega
      obtain ⟨last, hsteps⟩ := ih hposted rest
      refine ⟨last, .head (.post (by omega) hseal) ?_⟩
      simpa using hsteps
    next reason rest hseal =>
      have hleft : underway.length + waiting.length ≤ max limit 1 := by omega
      obtain ⟨last, hsteps⟩ := ih hleft rest
      exact ⟨last, .head (.skip (by omega) hseal) hsteps⟩

/-- The challenges under way are replied to in any order. -/
theorem steps_of_perm {underway : List (Listing × Bytes)} {order : List (Listing × Bytes)}
    (hperm : order.Perm underway) (replies : List (Listing × Reply)) :
    Steps e codec challenge ask limit ⟨[], entropy, underway, replies⟩
      ⟨[], entropy, [], replies ++ order.map (answered ask)⟩ := by
  induction order generalizing underway replies with
  | nil =>
    rw [← hperm.nil_eq, List.map_nil, List.append_nil]
  | cons post order ih =>
    obtain ⟨before, after, rfl⟩ := List.append_of_mem (hperm.mem_iff.mp List.mem_cons_self)
    have hothers : order.Perm (before ++ after) :=
      (hperm.trans List.perm_middle).cons_inv
    refine .head .reply ?_
    simpa using ih hothers (replies ++ [answered ask post])

end RoundTrips

/-- All round trips of an announcement's challenges are done, and the replies have come in a certain
order. -/
def Completes (e : Enclave) (codec : Codec) (r : Registry) (announced : Directory)
    (ask : Listing → Bytes → Reply) (entropy : Entropy) (limit : Nat)
    (replies : List (Listing × Reply)) : Prop :=
  ∃ rest, RoundTrips.Steps e codec (start e codec r announced entropy).1.challenge ask limit
    { waiting := candidates r announced, entropy := entropy.skip Challenge.length }
    { waiting := [], entropy := rest, replies }

theorem Completes.perm (h : Completes e codec r announced ask entropy limit replies) :
    ((start e codec r announced entropy).1.posts.map (answered ask)).Perm replies := by
  obtain ⟨rest, hsteps⟩ := h
  have hperm := hsteps.allReplies_perm
  simp only [RoundTrips.allReplies, sealChallenges_nil, List.nil_append, List.map_nil,
    List.append_nil] at hperm
  exact hperm

/-- With any limit the replies may come in the order of the posts. -/
theorem completes_in_order (e : Enclave) (codec : Codec) (r : Registry) (announced : Directory)
    (ask : Listing → Bytes → Reply) (entropy : Entropy) (limit : Nat) :
    Completes e codec r announced ask entropy limit
      ((start e codec r announced entropy).1.posts.map (answered ask)) := by
  obtain ⟨rest, hsteps⟩ := RoundTrips.steps_in_order (candidates r announced)
    (entropy.skip Challenge.length) []
  exact ⟨rest, hsteps⟩

/-- With a limit that lets all challenges be under way the replies may come in any order. -/
theorem completes_of_perm (hlimit : (candidates r announced).length ≤ limit)
    {order : List (Listing × Bytes)}
    (hperm : order.Perm (start e codec r announced entropy).1.posts) :
    Completes e codec r announced ask entropy limit (order.map (answered ask)) := by
  have hroom : ([] : List (Listing × Bytes)).length + (candidates r announced).length ≤
      max limit 1 := by
    rw [List.length_nil]
    omega
  obtain ⟨rest, hsteps⟩ := RoundTrips.steps_to_underway e codec
    (start e codec r announced entropy).1.challenge ask hroom (entropy.skip Challenge.length) []
  exact ⟨rest, hsteps.trans (RoundTrips.steps_of_perm hperm [])⟩

/-- For an announcement that lists no key at two urls, the order in which the replies come and the
limit make no difference: the error is the same, and what is taken over is the same but for the
moment of the exchange. This is so whatever else the node has taken over by then. -/
theorem outcome_of_completes (hstart : (start e codec r announced entropy).1 = d)
    (hconsistent : announced.Consistent) (ask : Listing → Bytes → Reply) :
    (∀ limit, ∃ replies, Completes e codec r announced ask entropy limit replies) ∧
    ∀ limit limit' replies replies',
      Completes e codec r announced ask entropy limit replies →
      Completes e codec r announced ask entropy limit' replies' →
      ∀ now moment, d.finish now replies moment = d.finish now replies' moment ∧
        ∀ moment', d.timeless (d.finish now replies moment) =
          d.timeless (d.finish now replies' moment') := by
  refine ⟨fun limit => ⟨_, completes_in_order e codec r announced ask entropy limit⟩, ?_⟩
  intro limit limit' replies replies' hreplies hreplies' now moment
  have hannounced : d.announced = announced := by rw [← hstart]; rfl
  have hposted (l : Listing) (reply : Reply) (hreply : (l, reply) ∈ replies) :
      l ∈ d.announced.listings := by
    obtain ⟨post, hpost, heq⟩ := List.mem_map.mp (hreplies.perm.mem_iff.mpr hreply)
    cases heq
    rw [hannounced]
    exact (mem_of_mem_start (List.mem_map_of_mem hpost)).1
  have hsame : d.finish now replies moment = d.finish now replies' moment :=
    finish_of_perm (hannounced ▸ hconsistent) hposted (hreplies.perm.symm.trans hreplies'.perm)
      moment
  refine ⟨hsame, fun moment' => ?_⟩
  rw [hsame]
  exact timeless_finish moment moment'

end Discovery

namespace Node

open Discovery (Completes answered)

/-! ## A tour -/

/-- A node announces a key of its own, with its url in two spellings, and a key elsewhere. -/
def tour : Directory where
  url := "http://visitor"
  listings := .ofList [⟨.filled 2, "http://visitor"⟩, ⟨.filled 2, "http://visitor/"⟩,
    ⟨.filled 3, "http://elsewhere"⟩]

/-- The challenges of the tour. -/
def toured : Discovery := (host.startDiscovery tour (Vault.repeating 5)).1

/-- The key of the node that announces itself is proven and the other one is not. -/
def tourAnswer (l : Listing) (_ : Bytes) : Reply :=
  if l.key = .filled 2 then .ok toured.challenge else .error (.timeout l.url)

/-- The replies to the challenges of the tour, if these are posted in a certain order. -/
def tourReplies (order : List (Listing × Bytes)) : List (Listing × Reply) :=
  order.map (answered tourAnswer)

/-- The replies come in the order of the posts, one after the other, or the other way around. -/
theorem outcome_of_completes_tour :
    tour.Consistent ∧ tourReplies toured.posts ≠ tourReplies toured.posts.reverse ∧
      ∃ registry, toured.finish host.registry (tourReplies toured.posts) 1 = .ok registry ∧
        toured.finish host.registry (tourReplies toured.posts.reverse) 1 = .ok registry ∧
        toured.timeless (.ok registry) =
          toured.timeless (toured.finish host.registry (tourReplies toured.posts.reverse) 2) := by
  have hconsistent : tour.Consistent := by
    have hdecide : ∀ a ∈ tour.listings.elems, ∀ b ∈ tour.listings.elems,
        a.key = b.key → a.normalized = b.normalized := by decide +kernel
    exact hdecide
  have hone : Completes host.vault.enclave host.vault.codec host.registry tour tourAnswer
      (Vault.repeating 5) 1 (tourReplies toured.posts) :=
    Discovery.completes_in_order _ _ _ _ _ _ _
  have hthree : Completes host.vault.enclave host.vault.codec host.registry tour tourAnswer
      (Vault.repeating 5) 3 (tourReplies toured.posts.reverse) :=
    Discovery.completes_of_perm (by decide +kernel) (List.reverse_perm _)
  obtain ⟨-, hall⟩ := Discovery.outcome_of_completes (d := toured) rfl hconsistent tourAnswer
  obtain ⟨hsame, htimeless⟩ := hall 1 3 _ _ hone hthree host.registry 1
  have hvouches : toured.vouches ⟨.filled 2, "http://visitor"⟩ = true := by decide +kernel
  have hproven : (⟨.filled 2, "http://visitor"⟩, .ok toured.challenge) ∈
      tourReplies toured.posts := by decide +kernel
  obtain ⟨registry, hregistry⟩ : ∃ registry,
      toured.finish host.registry (tourReplies toured.posts) 1 = .ok registry :=
    ⟨_, Discovery.finish_eq_ok_iff.mpr ⟨⟨_, hproven, hvouches⟩, rfl⟩⟩
  refine ⟨hconsistent, by decide +kernel, registry, hregistry, hsame ▸ hregistry, ?_⟩
  rw [← hregistry]
  exact htimeless 2

end Node

end SealedExchange
