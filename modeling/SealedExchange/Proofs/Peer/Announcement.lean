import SealedExchange.Node.Basic
import SealedExchange.Proofs.Exchange.Readable
import SealedExchange.Proofs.Peer.Pinning
import SealedExchange.Proofs.Success

/-! # What an announcement can change

An announcement changes nothing unless a listing at the announcer's own url is proven. If one is,
only proven listings get into the directory, while the announced nodes are learned without a proof.
It makes no difference in which order the replies come, what they are, or what else the node has
taken over in the meantime.
-/

namespace SealedExchange

-- Unification would otherwise compare urls by trimming a text that is not known.
attribute [local irreducible] Url.normalize

namespace Discovery

variable {d : Discovery} {r r' : Registry} {announced : Directory} {l : Listing}
  {replies : List (Listing × Reply)} {moment : Int64}

/-! ## Before the replies -/

theorem mem_candidates :
    l ∈ candidates r announced ↔ l ∈ announced.listings ∧ l.key ∉ r.localKeys := by
  rw [candidates, List.mem_filter, Bool.not_eq_true', ← Bool.not_eq_true, Registry.isLocal_iff]
  exact Iff.rfl

theorem sealChallenges_cons (e : Enclave) (codec : Codec) (challenge : Bytes) (l : Listing)
    (ls : List Listing) (entropy : Entropy) :
    (sealChallenges e codec challenge (l :: ls) entropy).1 =
      match sealChallenge e codec challenge l.key entropy with
      | (.ok body, rest) => (l, body) :: (sealChallenges e codec challenge ls rest).1
      | (.error _, rest) => (sealChallenges e codec challenge ls rest).1 := by
  simp only [sealChallenges, bind, StateT.bind, ExceptT.run]
  rcases sealChallenge e codec challenge l.key entropy with ⟨_ | body, rest⟩ <;> rfl

/-- What is posted for a listing is a challenge that was sealed for its key. -/
theorem of_mem_sealChallenges {e : Enclave} {codec : Codec} {challenge body : Bytes}
    {ls : List Listing} {entropy : Entropy}
    (hpost : (l, body) ∈ (sealChallenges e codec challenge ls entropy).1) :
    l ∈ ls ∧ ∃ before after, sealChallenge e codec challenge l.key before = (.ok body, after) := by
  induction ls generalizing entropy with
  | nil => cases hpost
  | cons first ls ih =>
    rw [sealChallenges_cons] at hpost
    split at hpost
    next hseal =>
      rcases List.mem_cons.mp hpost with heq | hpost
      · cases heq
        exact ⟨List.mem_cons_self, _, _, hseal⟩
      · exact (ih hpost).imp_left (.tail _)
    next => exact (ih hpost).imp_left (.tail _)

/-- Every listing is challenged if a challenge can be sealed for any key. -/
theorem posts_of_seals {e : Enclave} {codec : Codec} {challenge : Bytes}
    (hseals : ∀ key entropy, ∃ body rest,
      sealChallenge e codec challenge key entropy = (.ok body, rest)) (ls : List Listing)
    {entropy : Entropy} : (sealChallenges e codec challenge ls entropy).1.map Prod.fst = ls := by
  induction ls generalizing entropy with
  | nil => rfl
  | cons l ls ih =>
    obtain ⟨body, rest, hseal⟩ := hseals l.key entropy
    rw [sealChallenges_cons, hseal, List.map_cons, ih]

theorem mem_of_mem_start {e : Enclave} {codec : Codec} {entropy : Entropy}
    (hpost : l ∈ (start e codec r announced entropy).1.posts.map Prod.fst) :
    l ∈ announced.listings ∧ l.key ∉ r.localKeys := by
  obtain ⟨⟨l, body⟩, hmem, rfl⟩ := List.mem_map.mp hpost
  exact mem_candidates.mp (of_mem_sealChallenges hmem).1

/-! ## After the replies -/

theorem mem_proven : l ∈ d.proven replies ↔ (l, .ok d.challenge) ∈ replies := by
  rw [proven, List.mem_filterMap]
  constructor
  · rintro ⟨⟨other, reply⟩, hreply, hproven⟩
    cases reply with
    | error reason => cases hproven
    | ok answer =>
      obtain ⟨rfl, heq⟩ := Option.ite_none_right_eq_some.mp hproven
      cases heq
      exact hreply
  · exact fun hreply => ⟨_, hreply, if_pos rfl⟩

theorem vouches_iff : d.vouches l = true ↔
    Url.same (Url.normalize l.url) (Url.normalize d.announced.url) = true :=
  Iff.rfl

theorem finish_eq_ok_iff : d.finish r replies moment = .ok r' ↔
    (∃ l, (l, .ok d.challenge) ∈ replies ∧ d.vouches l) ∧
      r' = r.merge d.announced.url (d.proven replies) d.announced.parties.keys moment := by
  have hvouched : (d.proven replies).any d.vouches = true ↔
      ∃ l, (l, .ok d.challenge) ∈ replies ∧ d.vouches l := by
    simp only [List.any_eq_true, mem_proven]
  rw [finish, ← hvouched]
  split
  next hany => simp [hany, eq_comm]
  next hany => simp [hany]

/-- The url that the announcer is listed under. It is put in normal form when the announcement is
taken over and once more when the exchange is recorded. -/
def announcer (d : Discovery) : String := Url.normalize (Url.normalize d.announced.url)

/-- What a registry takes over of an announcement. -/
structure Accepts (d : Discovery) (replies : List (Listing × Reply)) (r r' : Registry) : Prop where
  /-- A listing at the announcer's url is proven. -/
  vouched : ∃ l ∈ d.announced.listings, l.key ∉ r.localKeys ∧
    Url.same (Url.normalize l.url) (Url.normalize d.announced.url) ∧
    (l, .ok d.challenge) ∈ replies
  /-- What is new in the directory is proven. -/
  listings : ∀ a ∈ r'.directory.listings, a ∈ r.directory.listings ∨
    ∃ l ∈ d.announced.listings, l.key ∉ r.localKeys ∧ (l, .ok d.challenge) ∈ replies ∧
      a = l.normalized
  /-- The nodes of the announcement and the announcer are known now, and no others. -/
  peers : ∀ other, other ∈ r'.directory.peers ↔
    (other ∈ r.directory.peers ∨ (∃ party ∈ d.announced.peers, other = Url.normalize party) ∨
      other = d.announcer) ∧ other ≠ r.directory.url
  url : r'.directory.url = r.directory.url
  localKeys : r'.localKeys = r.localKeys

/-- What is taken over is announced, not local and proven if the challenges were posted only for
listings that are announced and not local. -/
theorem accepts_of_finish (helsewhere : r.directory.url ∉ r.directory.peers)
    (hposted : ∀ l reply, (l, reply) ∈ replies → l ∈ d.announced.listings ∧ l.key ∉ r.localKeys)
    (hfinish : d.finish r replies moment = .ok r') : d.Accepts replies r r' := by
  obtain ⟨⟨l, hreply, hvouches⟩, rfl⟩ := finish_eq_ok_iff.mp hfinish
  refine ⟨?_, ?_, ?_, Registry.url_merge, Registry.localKeys_merge⟩
  · obtain ⟨hannounced, hremote⟩ := hposted l _ hreply
    exact ⟨l, hannounced, hremote, vouches_iff.mp hvouches, hreply⟩
  · intro a ha
    rcases Registry.mem_of_mem_merge ha with hold | ⟨l, hl, rfl⟩
    · exact .inl hold
    · have hreply := mem_proven.mp hl
      obtain ⟨hannounced, hremote⟩ := hposted l _ hreply
      exact .inr ⟨l, hannounced, hremote, hreply, rfl⟩
  · intro other
    rw [Registry.mem_peers_merge]
    constructor
    -- The node itself was not among the nodes it knew before.
    · rintro (hold | ⟨hnew, hother⟩)
      · exact ⟨.inl hold, fun heq => helsewhere (heq ▸ hold)⟩
      · exact ⟨.inr hnew, hother⟩
    · rintro ⟨hold | hnew, hother⟩
      · exact .inl hold
      · exact .inr ⟨hnew, hother⟩

end Discovery

namespace Node

theorem node_conclude_of_finish {n n' : Node} {d : Discovery} {replies : List (Listing × Reply)}
    {moment : Int64} (hfinish : n.finishDiscovery d replies moment = .ok n') :
    (n.conclude d replies moment).node = n' := by
  simp only [conclude, hfinish]
  split <;> rfl

theorem conclude_of_finishDiscovery {n n' : Node} {d : Discovery}
    {replies : List (Listing × Reply)} {moment : Int64} {bytes : Bytes}
    (hfinish : n.finishDiscovery d replies moment = .ok n')
    (hencode : n'.registry.directory.encode = .ok bytes) :
    n.conclude d replies moment = n'.reply (.bytes 200 bytes) := by
  have hbytes : n'.directoryBytes = .ok bytes := mapError_eq_ok_iff.mpr hencode
  simp only [conclude, hfinish, hbytes]

/-- An announcement leaves a node as it is, or it is vouched for by a proven listing at the
announcer's url and no more than what is proven is taken over. -/
theorem announcement_sound {url : String} {localKeys : SortedSet PublicKey}
    {bootstrap : List String} {asked n : Node} {announced : Directory} {entropy : Entropy}
    {d : Discovery} {replies : List (Listing × Reply)} {moment : Int64}
    (hreached : Relation.ReflTransGen Registry.Merges (.new url localKeys bootstrap) asked.registry)
    (hlater : Relation.ReflTransGen Registry.Merges asked.registry n.registry)
    (hstart : (asked.startDiscovery announced entropy).1 = d)
    (hreplies : (replies.map Prod.fst).Perm (d.posts.map Prod.fst)) :
    (∀ reason, n.finishDiscovery d replies moment = .error reason →
      n.conclude d replies moment = n.reply reason.response) ∧
    ∀ n', n.finishDiscovery d replies moment = .ok n' →
      (n.conclude d replies moment).node = n' ∧ n'.vault = n.vault ∧ d.announced = announced ∧
        d.Accepts replies n.registry n'.registry := by
  constructor
  · intro reason hfails
    rw [conclude, hfails]
  · intro n' hfinish
    -- Other announcements may have been taken over since, but the local keys are still the same.
    have hpinned := Registry.pinned_run (hreached.trans hlater)
    have hlocal : n.registry.localKeys = asked.registry.localKeys :=
      hpinned.localKeys.trans (Registry.pinned_run hreached).localKeys.symm
    have hannounced : d.announced = announced := by rw [← hstart]; rfl
    have hposted (l : Listing) (reply : Reply) (hreply : (l, reply) ∈ replies) :
        l ∈ d.announced.listings ∧ l.key ∉ n.registry.localKeys := by
      have hpost : l ∈ d.posts.map Prod.fst :=
        hreplies.mem_iff.mp (List.mem_map_of_mem hreply)
      rw [← hstart] at hpost
      rw [hannounced, hlocal]
      exact Discovery.mem_of_mem_start hpost
    obtain ⟨registry, hregistry, rfl⟩ := map_eq_ok_iff.mp hfinish
    exact ⟨node_conclude_of_finish hfinish, rfl, hannounced,
      Discovery.accepts_of_finish hpinned.elsewhere hposted hregistry⟩

/-! ## A visit -/

/-- A node with one key that knows of no other node. -/
def host : Node :=
  .new { Vault.bystander {} with enclave := Vault.holding 1 [] } "http://host" []

/-- A node announces a key of its own and a key elsewhere. -/
def visit : Directory where
  url := "http://visitor/"
  listings := .ofList [⟨.filled 2, "http://visitor"⟩, ⟨.filled 3, "http://elsewhere"⟩]

/-- The challenges of the visit. -/
def visited : Discovery := (host.startDiscovery visit (Vault.repeating 5)).1

/-- The replies to the challenges, of which the second one came first. -/
def visitReplies : List (Listing × Reply) :=
  [(⟨.filled 3, "http://elsewhere"⟩, .error (.timeout "http://elsewhere")),
    (⟨.filled 2, "http://visitor"⟩, .ok visited.challenge)]

/-- The visitor proves its key. -/
theorem announcement_sound_visit :
    (visitReplies.map Prod.fst).Perm (visited.posts.map Prod.fst) ∧
      ∃ n', host.finishDiscovery visited visitReplies 1 = .ok n' ∧
        (host.conclude visited visitReplies 1).node = n' ∧ n'.vault = host.vault ∧
        visited.announced = visit ∧
        visited.Accepts visitReplies host.registry n'.registry := by
  have hposts : visited.posts.map Prod.fst =
      [⟨.filled 2, "http://visitor"⟩, ⟨.filled 3, "http://elsewhere"⟩] := by
    decide +kernel
  have hreplies : (visitReplies.map Prod.fst).Perm (visited.posts.map Prod.fst) :=
    hposts ▸ .swap _ _ _
  have hvouches : visited.vouches ⟨.filled 2, "http://visitor"⟩ = true := by decide +kernel
  obtain ⟨registry, hregistry⟩ : ∃ registry,
      visited.finish host.registry visitReplies 1 = .ok registry :=
    ⟨_, Discovery.finish_eq_ok_iff.mpr ⟨⟨_, .tail _ List.mem_cons_self, hvouches⟩, rfl⟩⟩
  have hfinish : host.finishDiscovery visited visitReplies 1 = .ok { host with registry } :=
    map_eq_ok_iff.mpr ⟨registry, hregistry, rfl⟩
  exact ⟨hreplies, _, hfinish, (announcement_sound .refl .refl rfl hreplies).2 _ hfinish⟩

end Node

end SealedExchange
