import SealedExchange.Proofs.Exchange.EndToEnd
import SealedExchange.Proofs.Node.Posting
import SealedExchange.Proofs.Peer.Challenge

/-! # Two nodes that meet

A node that is told of another one challenges each key that is not its own, and the other node opens
the challenges for its keys, whatever becomes of the rest. What comes back lists the keys of the
node that was told, and they are challenged in turn. So after one exchange each of the two nodes has
the keys of the other one at the other one's url.
-/

namespace SealedExchange

-- Unification would otherwise trim and split texts that are not known.
attribute [local irreducible] Url.normalize Http.splitTarget

variable {suite : CipherSuite}

/-- Two nodes have the same codec, share neither a key nor a url, and the first one knows no key of
the second one at any other url. -/
structure Node.Meets (n : Node) (url : String) (n' : Node) (url' : String) : Prop where
  codec : n'.vault.codec = n.vault.codec
  keys : ∀ key, n'.vault.enclave.manages key = true → n.vault.enclave.manages key = false
  urls : Url.same url url' = false
  view : ∀ key, n'.vault.enclave.manages key = true → ∀ current,
    n.registry.directory.urlOf? key = some current → Url.same current url' = true

/-- What becomes of a node that meets another one: it knows where the keys of the other one are, and
its own keys are where they were. -/
structure Node.Acquainted (n n' : Node) (url' : String) (moment : Int64) (later : Node) : Prop where
  enclave : later.vault.enclave = n.vault.enclave
  own : ∀ key, n.vault.enclave.manages key = true →
    later.registry.directory.urlOf? key = n.registry.directory.urlOf? key
  keys : ∀ key, n'.vault.enclave.manages key = true →
    later.registry.directory.urlOf? key = some url'
  contacted : later.registry.directory.parties.get? url' = some (some moment)

theorem Enclave.mem_ofList_managedKeys {e : Enclave} {key : PublicKey} :
    key ∈ SortedSet.ofList e.managedKeys ↔ e.manages key = true :=
  SortedSet.mem_ofList.trans mem_managedKeys

/-- A node that has not heard of any key of another one. -/
theorem Node.meets_of_unknown {n n' : Node} {url url' : String}
    (hcodec : n'.vault.codec = n.vault.codec) (hurls : Url.same url url' = false)
    (hkeys : ∀ key ∈ (SortedSet.ofList n'.vault.enclave.managedKeys).elems,
      n.vault.enclave.manages key = false ∧ n.registry.directory.urlOf? key = none) :
    n.Meets url n' url' := by
  refine ⟨hcodec, fun key hkey => ?_, hurls, fun key hkey current hcurrent => ?_⟩
  · exact (hkeys key (Enclave.mem_ofList_managedKeys.mpr hkey)).1
  · rw [(hkeys key (Enclave.mem_ofList_managedKeys.mpr hkey)).2] at hcurrent
    cases hcurrent

namespace Mesh

variable {m m' : Mesh} {known : String → Prop} {index index' : Nat} {url url' : String}
  {n n' asked honest : Node} {announcing : Registry}

/-- A node of a mesh holds the secrets of its keys, and announcements and challenges that are posted
to its url come to it as such. -/
structure Hosts (suite : CipherSuite) (m : Mesh) (index : Nat) (url : String) (n : Node) :
    Prop where
  member : ∃ member, m.member? index = some member ∧ n.Steady member.node
  leads : ∀ path ∈ [announcementPath, challengePath], ∃ target,
    m.locate url path = .member index target ∧ (Http.splitTarget target).1 = "/" ++ path
  normal : Url.normalize url = url
  keyed : n.vault.enclave.Keyed suite
  default : n.vault.enclave.manages n.vault.enclave.defaultKey = true
  reached : n.registry.Reached url (.ofList n.vault.enclave.managedKeys)

theorem Hosts.of_steady (h : m.Hosts suite index url n) (hsteady : m.Steady m') :
    m'.Hosts suite index url n := by
  obtain ⟨member, hmember, hsame⟩ := h.member
  obtain ⟨member', hmember', hsame'⟩ := hsteady.members index member hmember
  exact { h with
    member := ⟨member', hmember', hsame.trans hsame'⟩
    leads := hsteady.locate ▸ h.leads }

/-- A node at its url opens the challenges for its keys. -/
theorem Hosts.reply_of_mem_posts (hopens : suite.Opens) (hmutual : suite.Mutual)
    (hasked : asked.vault.enclave.Keyed suite) (hhonest : m.Hosts suite index' url' honest)
    (hcodec : honest.vault.codec = asked.vault.codec) {announced : Directory} {entropy : Entropy}
    {l : Listing} {body : Bytes} (hurl : l.url = url')
    (hmanages : honest.vault.enclave.manages l.key = true)
    (hpost : (l, body) ∈ (asked.startDiscovery announced entropy).1.posts) (level : Nat) :
    (post (level + 1) l.url challengePath body m).1 =
      .ok (asked.startDiscovery announced entropy).1.challenge := by
  obtain ⟨member, hmember, hsame⟩ := hhonest.member
  obtain ⟨target, hlocate, hpath⟩ := hhonest.leads challengePath (by simp)
  rw [hurl]
  refine reply_of_challenge hlocate hpath hmember ?_
  rw [hsame.answerChallenge]
  exact Node.answerChallenge_of_mem_posts hopens hmutual hasked hhonest.keyed hcodec hmanages hpost

theorem Plain.setNode (h : m.Plain known)
    (hlisted : ∀ l ∈ n.registry.directory.listings, known l.url) :
    (m.setNode index n).Plain known := by
  refine ⟨fun other member hmember => ?_, h.apart⟩
  rw [member?_setNode] at hmember
  obtain ⟨member', hmember', rfl⟩ := Option.map_eq_some_iff.mp hmember
  split
  next => exact hlisted
  next => exact h.listed other member' hmember'

theorem Hosts.setNode_of_ne (h : m.Hosts suite index' url' n') (hne : index ≠ index') (n : Node) :
    (m.setNode index n).Hosts suite index' url' n' := by
  obtain ⟨member, hmember, hsame⟩ := h.member
  refine { h with member := ⟨member, ?_, hsame⟩ }
  rw [member?_setNode, hmember, Option.map_some, if_neg hne]

/-- A node takes over what it is told. -/
theorem Hosts.inform (h : m.Hosts suite index url asked) (hsteady : asked.Steady n) {r : Registry}
    (hr : r.Reached url (.ofList asked.vault.enclave.managedKeys)) :
    (m.setNode index { n with registry := r }).Hosts suite index url
      { asked with registry := r } := by
  obtain ⟨member, hmember, -⟩ := h.member
  refine { h with
    member := ⟨{ member with node := { n with registry := r } }, ?_, ?_⟩
    reached := hr }
  · rw [member?_setNode, hmember, Option.map_some, if_pos rfl]
  · exact ⟨⟨hsteady.enclave, hsteady.codec⟩, rfl⟩

/-- Nodes of which one manages a key that the other one does not are at different places. -/
theorem Hosts.index_ne (h : m.Hosts suite index url n) (h' : m.Hosts suite index' url' n')
    (hmeets : n.Meets url n' url') : index ≠ index' := by
  rintro rfl
  obtain ⟨member, hmember, hsame⟩ := h.member
  obtain ⟨member', hmember', hsame'⟩ := h'.member
  cases hmember.symm.trans hmember'
  have hown := h'.default
  have hstrange := hmeets.keys _ hown
  rw [← hsame.enclave, hsame'.enclave, hown] at hstrange
  cases hstrange

/-! ## Being told of a node -/

/-- A node of a mesh is to check an honest announcement of another one. -/
structure Encounter (suite : CipherSuite) (known : String → Prop) (m : Mesh) (index : Nat)
    (url : String) (asked : Node) (index' : Nat) (url' : String) (honest : Node)
    (announcing : Registry) : Prop where
  plain : m.Plain known
  hosts : m.Hosts suite index url asked
  hosts' : m.Hosts suite index' url' honest
  meets : asked.Meets url honest url'
  reached : announcing.Reached url' (.ofList honest.vault.enclave.managedKeys)
  listed : ∀ l ∈ announcing.directory.listings, known l.url

/-- The node has been told, and its registry is a new one. -/
structure Told (suite : CipherSuite) (m : Mesh) (index : Nat) (url : String) (asked : Node)
    (index' : Nat) (url' : String) (honest : Node) (r : Registry) : Prop where
  hosts : m.Hosts suite index url { asked with registry := r }
  hosts' : m.Hosts suite index' url' honest
  knows : r.Knows url' (.ofList honest.vault.enclave.managedKeys) m.moment

theorem Encounter.of_steady
    (h : m.Encounter suite known index url asked index' url' honest announcing)
    (hsteady : m.Steady m') :
    m'.Encounter suite known index url asked index' url' honest announcing :=
  { h with
    plain := h.plain.of_steady hsteady
    hosts := h.hosts.of_steady hsteady
    hosts' := h.hosts'.of_steady hsteady }

theorem Told.of_steady {r : Registry}
    (h : m.Told suite index url asked index' url' honest r) (hsteady : m.Steady m') :
    m'.Told suite index url asked index' url' honest r :=
  ⟨h.hosts.of_steady hsteady, h.hosts'.of_steady hsteady, hsteady.moment ▸ h.knows⟩

section Told

variable {entropy : Entropy} {d : Discovery} {replies : List (Listing × Reply)}
  (h : m.Encounter suite known index url asked index' url' honest announcing)
  (hcompact : suite.Compact)
  (hstart : (asked.startDiscovery announcing.directory entropy).1 = d)

include h

theorem Encounter.keys {key : PublicKey} (hkey : honest.vault.enclave.manages key = true) :
    key ∉ SortedSet.ofList asked.vault.enclave.managedKeys := by
  rw [Enclave.mem_ofList_managedKeys, h.meets.keys key hkey]
  exact Bool.false_ne_true

include hcompact hstart

theorem Encounter.posts :
    d.posts.map Prod.fst = Discovery.candidates asked.registry announcing.directory := by
  rw [← hstart, Node.posts_startDiscovery hcompact h.hosts.keyed h.hosts.default]

theorem Encounter.replied {post : Post} {m₁ m₂ : Mesh}
    (hreplies : postChallenges post d.posts m₁ = (replies, m₂)) :
    replies.map Prod.fst = Discovery.candidates asked.registry announcing.directory := by
  have hreplied := map_fst_postChallenges post d.posts m₁
  rwa [hreplies, h.posts hcompact hstart] at hreplied

/-- What is proven is part of the announcement. -/
theorem Encounter.proven {post : Post} {m₁ m₂ : Mesh}
    (hreplies : postChallenges post d.posts m₁ = (replies, m₂)) :
    (∀ l ∈ d.proven replies, l ∈ announcing.directory.listings) ∧
      (d.proven replies).length ≤ announcing.directory.listings.elems.length := by
  have hreplied := h.replied hcompact hstart hreplies
  constructor
  · intro l hl
    have hmem : l ∈ replies.map Prod.fst := List.mem_map_of_mem (Discovery.mem_proven.mp hl)
    rw [hreplied] at hmem
    exact (Discovery.mem_candidates.mp hmem).1
  · calc (d.proven replies).length ≤ replies.length := List.length_filterMap_le _ _
      _ = (Discovery.candidates asked.registry announcing.directory).length := by
        rw [← hreplied, List.length_map]
      _ ≤ announcing.directory.listings.elems.length := List.length_filter_le _ _

theorem Encounter.quiet (level : Nat) :
    ∀ p ∈ d.posts, Quiet known (post level p.1.url challengePath p.2) := by
  intro p hp
  have hcandidate : p.1 ∈ Discovery.candidates asked.registry announcing.directory :=
    h.posts hcompact hstart ▸ List.mem_map_of_mem hp
  exact quiet_post level (h.listed _ (Discovery.mem_candidates.mp hcandidate).1) (by simp) _

variable (hopens : suite.Opens) (hmutual : suite.Mutual) (level : Nat)

include hopens hmutual

/-- Each key of the announcer is proven at its url. -/
theorem Encounter.proves {key : PublicKey} (hkey : honest.vault.enclave.manages key = true) :
    (⟨key, url'⟩, .ok d.challenge) ∈ (postChallenges (post (level + 1)) d.posts m).1 := by
  have hguards := h.hosts.reached.guards h.hosts.normal
  have hown := (h.reached.guards h.hosts'.normal).own key (Enclave.mem_ofList_managedKeys.mpr hkey)
  have hcandidate : ⟨key, url'⟩ ∈ Discovery.candidates asked.registry announcing.directory := by
    refine Discovery.mem_candidates.mpr ⟨Directory.mem_listings_of_urlOf? hown, ?_⟩
    rw [hguards.localKeys_eq]
    exact h.keys hkey
  rw [← h.posts hcompact hstart] at hcandidate
  obtain ⟨⟨l, body⟩, hpost, rfl⟩ := List.mem_map.mp hcandidate
  have hquiet := h.quiet hcompact hstart (level + 1)
  refine mem_postChallenges h.plain hquiet hpost fun m' hsteady => ?_
  rw [← hstart] at hpost ⊢
  exact (h.hosts'.of_steady hsteady).reply_of_mem_posts hopens hmutual h.hosts.keyed h.meets.codec
    rfl hkey hpost level

variable (hreplies : postChallenges (post (level + 1)) d.posts m = (replies, m'))

include hreplies

/-- An honest announcement is taken over, whatever else it lists. -/
theorem Encounter.finish :
    ∃ r', d.finish asked.registry replies m.moment = .ok r' ∧
      r' = asked.registry.merge announcing.directory.url (d.proven replies)
        announcing.directory.peers m.moment ∧
      r'.Knows url' (.ofList honest.vault.enclave.managedKeys) m.moment := by
  have hannounced : d.announced = announcing.directory := by rw [← hstart]; rfl
  rw [← hannounced]
  apply Discovery.finish_of_honest (h.hosts.reached.guards h.hosts.normal)
    (h.reached.guards h.hosts'.normal) hannounced h.hosts'.normal
  case hne => exact ⟨_, Enclave.mem_ofList_managedKeys.mpr h.hosts'.default⟩
  case hurl =>
    rintro rfl
    exact Bool.false_ne_true (h.meets.urls.symm.trans (Url.same_self _))
  case hremote => exact fun key hkey => h.keys (Enclave.mem_ofList_managedKeys.mp hkey)
  case hview => exact fun key hkey => h.meets.view key (Enclave.mem_ofList_managedKeys.mp hkey)
  case hposted =>
    intro l reply hreply
    have hmem : l ∈ replies.map Prod.fst := List.mem_map_of_mem hreply
    rw [h.replied hcompact hstart hreplies] at hmem
    exact hannounced ▸ (Discovery.mem_candidates.mp hmem).1
  case hproves =>
    intro key hkey
    have hmanages := Enclave.mem_ofList_managedKeys.mp hkey
    have hproves := h.proves hcompact hstart hopens hmutual level hmanages
    rwa [hreplies] at hproves

/-- The node that has checked an honest announcement is put in its place. -/
theorem Encounter.told :
    m.Steady m' ∧ ∃ r' member', m'.member? index = some member' ∧
      member'.node.finishDiscovery d replies m'.moment =
        .ok { member'.node with registry := r' } ∧
      r' = asked.registry.merge announcing.directory.url (d.proven replies)
        announcing.directory.peers m.moment ∧
      (m'.setNode index { member'.node with registry := r' }).Told suite index url asked index' url'
        honest r' := by
  have hsteady := quiet_postChallenges (h.quiet hcompact hstart (level + 1)) m h.plain
  rw [hreplies] at hsteady
  obtain ⟨r', hfinish, hr', hknows⟩ := h.finish hcompact hstart hopens hmutual level hreplies
  obtain ⟨member', hmember', hsame'⟩ := (h.hosts.of_steady hsteady).member
  have hreached' : r'.Reached url (.ofList asked.vault.enclave.managedKeys) := by
    rw [hr']
    exact h.hosts.reached.merge _ _ _ _
  refine ⟨hsteady, r', member', hmember', ?_, hr', ?_⟩
  · rw [Node.finishDiscovery, hsame'.registry, hsteady.moment, hfinish]
    rfl
  · refine ⟨(h.hosts.of_steady hsteady).inform hsame' hreached', ?_, ?_⟩
    · exact (h.hosts'.of_steady hsteady).setNode_of_ne (h.hosts.index_ne h.hosts' h.meets) _
    · exact hsteady.moment ▸ hknows

end Told

/-! ## One exchange -/

/-- A node that is told of another one answers with all that it knows then. -/
theorem Encounter.post_announcement
    (h : m.Encounter suite known index url asked index' url' honest announcing)
    (hcompact : suite.Compact) (hopens : suite.Opens) (hmutual : suite.Mutual)
    (hnormal : ∀ l ∈ announcing.directory.listings, known (Url.normalize l.url))
    (hfits : asked.registry.directory.FitsWith announcing.directory) {ours : Bytes}
    (hours : announcing.directory.encode = .ok ours) (level : Nat) :
    ∃ r' answer m', post (level + 2) url announcementPath ours m = (.ok answer, m') ∧
      r'.directory.encode = .ok answer ∧ m'.Told suite index url asked index' url' honest r' ∧
      m'.Plain known ∧ m'.moment = m.moment := by
  obtain ⟨member, hmember, hsame⟩ := h.hosts.member
  obtain ⟨target, hlocate, hpath⟩ := h.hosts.leads announcementPath (by simp)
  have hmethod : (arriving target ours).method = "POST" := rfl
  have hread : Node.readDirectory (arriving target ours).body = .ok announcing.directory :=
    mapError_eq_ok_iff.mpr (Directory.decode_of_encode hours)
  have hhandle := Node.handle_announcement (n := member.node) hmethod
    ((path_arriving target ours).trans hpath) hread m.entropy
  rw [hsame.startDiscovery] at hhandle
  -- The challenges are posted.
  generalize hstart : (asked.startDiscovery announcing.directory m.entropy).1 = d at hhandle
  generalize (asked.startDiscovery announcing.directory m.entropy).2 = entropy at hhandle
  have hdrawn : m.Steady { m with entropy } := .of_eq rfl rfl rfl
  rcases hreplies : postChallenges (post (level + 1)) d.posts { m with entropy } with ⟨replies, m'⟩
  obtain ⟨hsteady, r', member', hmember', hfinish, hr', htold⟩ :=
    (h.of_steady hdrawn).told hcompact hstart hopens hmutual level hreplies
  -- What is proven is taken over, and the answer is written.
  obtain ⟨hproven, hcount⟩ := h.proven hcompact hstart hreplies
  obtain ⟨answer, hanswer⟩ : ∃ answer, r'.directory.encode = .ok answer := by
    rw [hr']
    exact (Registry.fits_merge hfits hproven hcount).exists_encode
  have hrequest := request_of_discovering hmember hhandle hreplies
  rw [nodeAt_of_member hmember', Node.conclude_of_finishDiscovery hfinish hanswer,
    settle_eq] at hrequest
  have hplain : (m'.setNode index { member'.node with registry := r' }).Plain known := by
    refine ((h.plain.of_steady hdrawn).of_steady hsteady).setNode fun l hl => ?_
    simp only [hr'] at hl
    rcases Registry.mem_of_mem_merge hl with hold | ⟨l', hl', rfl⟩
    · exact h.plain.listed index member hmember l (hsame.registry ▸ hold)
    · exact hnormal l' (hproven l' hl')
  have hrecord := quiet_record (Url.join url announcementPath) (.ok answer) _ hplain
  exact ⟨r', answer, _, post_of_request hlocate hrequest, hanswer, htold.of_steady hrecord,
    hplain.of_steady hrecord, hrecord.moment.trans hsteady.moment⟩

theorem discover_of_finish {post : Post} {announced : Directory} {member member' : Member}
    {d : Discovery} {entropy : Entropy} {replies : List (Listing × Reply)}
    (hmember : m.member? index = some member)
    (hstart : member.node.startDiscovery announced m.entropy = (d, entropy))
    (hreplies : postChallenges post d.posts { m with entropy } = (replies, m'))
    (hmember' : m'.member? index = some member')
    (hfinish : member'.node.finishDiscovery d replies m'.moment = .ok n) :
    discover post index announced m = (.ok n.registry.directory, m'.setNode index n) := by
  simp only [discover, bind_apply, get_apply, hmember, drawing, hstart, hreplies,
    nodeAt_of_member hmember', hfinish]
  rfl

theorem exchange_of_post {post : Post} {ours answer : Bytes} {view : Directory}
    (hpost : post url announcementPath ours m = (.ok answer, m'))
    (hencode : view.encode = .ok answer) :
    exchange post index url ours m = discover post index view m' := by
  have hread : Node.readDirectory answer = .ok view :=
    mapError_eq_ok_iff.mpr (Directory.decode_of_encode hencode)
  simp only [exchange, bind_apply, hpost, hread]

theorem Hosts.exists_acquainted {r : Registry} {moment : Int64}
    (h : m.Hosts suite index url n) (hlater : m'.Hosts suite index url { n with registry := r })
    (hknows : r.Knows url' (.ofList n'.vault.enclave.managedKeys) moment) :
    ∃ later, m'.member? index = some later ∧ n.Acquainted n' url' moment later.node := by
  obtain ⟨later, hmember, hsame⟩ := hlater.member
  refine ⟨later, hmember, hsame.enclave, fun key hkey => ?_, fun key hkey => ?_, ?_⟩
  · have hlocal := Enclave.mem_ofList_managedKeys.mpr hkey
    rw [hsame.registry, (h.reached.guards h.normal).own key hlocal]
    exact (hlater.reached.guards h.normal).own key hlocal
  · rw [hsame.registry]
    exact hknows.keys key (Enclave.mem_ofList_managedKeys.mpr hkey)
  · rw [hsame.registry]
    exact hknows.contacted

/-- A url is listed in a directory or by a node of a mesh. -/
def Mentions (m : Mesh) (announced : Directory) (url : String) : Prop :=
  ∃ l, (l ∈ announced.listings ∨ ∃ index member, m.member? index = some member ∧
    l ∈ member.node.registry.directory.listings) ∧ (url = l.url ∨ url = Url.normalize l.url)

/-- Every url that is mentioned answers or refuses challenges and pushed payloads at once: none lets
them come in as announcements, which are answered only after further challenges. -/
def Prompt (m : Mesh) (announced : Directory) : Prop :=
  ∀ url, m.Mentions announced url → ∀ path ∈ [challengePath, "push"], ∀ index target,
    m.locate url path = .member index target → (Http.splitTarget target).1 ≠ "/partyinfo"

end Mesh

/-! ## A guest and a host -/

/-- The host after it has heard of a guest and of a key elsewhere. -/
def Node.knowing : Node :=
  { host with
    registry := host.registry.merge "http://elsewhere" [⟨.filled 3, "http://elsewhere"⟩]
      ["http://guest"] 1 }

/-- A node with two keys that knows of no other node. -/
def Node.guest : Node :=
  .new { Vault.bystander {} with enclave := Vault.holding 2 [4] } "http://guest" []

namespace Mesh

open CipherSuite (labelled exact_labelled mutual_labelled compact_labelled)
open Node (knowing guest)

/-- The host and the guest reach each other, and everyone else refuses. -/
def lodging : Mesh where
  members := [{ node := knowing }, { node := guest }]
  locate base path :=
    if base = "http://host" then .member 0 ("/" ++ path)
    else if base = "http://guest" then .member 1 ("/" ++ path)
    else .outside (.refuses 404)
  entropy := Vault.repeating 5
  moment := 2

theorem hosts_knowing : lodging.Hosts labelled 0 "http://host" knowing where
  member := ⟨_, rfl, .refl _⟩
  leads path hpath := by
    refine ⟨"/" ++ path, by simp [lodging], ?_⟩
    rcases List.mem_pair.mp hpath with rfl | rfl <;> decide +kernel
  normal := by decide +kernel
  keyed := Vault.keyed_holding 1 []
  default := by decide +kernel
  reached := ⟨[], .single ⟨_, _, _, _, rfl⟩⟩

theorem hosts_guest : lodging.Hosts labelled 1 "http://guest" guest where
  member := ⟨_, rfl, .refl _⟩
  leads path hpath := by
    refine ⟨"/" ++ path, by simp [lodging], ?_⟩
    rcases List.mem_pair.mp hpath with rfl | rfl <;> decide +kernel
  normal := by decide +kernel
  keyed := Vault.keyed_holding 2 [4]
  default := by decide +kernel
  reached := ⟨[], .refl⟩

theorem prompt_lodging (announced : Directory) : lodging.Prompt announced := by
  intro url _ path hpath index target hlocate
  have htarget : target = "/" ++ path := by
    change (if _ then _ else if _ then _ else _) = _ at hlocate
    split at hlocate
    · cases hlocate; rfl
    · split at hlocate <;> cases hlocate
      rfl
  rw [htarget]
  rcases List.mem_pair.mp hpath with rfl | rfl <;> decide +kernel

end Mesh

end SealedExchange
