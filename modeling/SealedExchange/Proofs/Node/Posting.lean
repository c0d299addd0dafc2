import SealedExchange.Node.Mesh
import SealedExchange.Proofs.Exchange.Sending
import SealedExchange.Proofs.Node.Atomicity
import SealedExchange.Proofs.Peer.Honest

/-! # What posts change

A node that is posted anything but an announcement may store and forget messages and push them on,
but its keys, its codec and its registry stay as they are, and so do those of every other node that
is posted something in turn.
-/

namespace SealedExchange

-- Unification would otherwise compare requests by splitting a target that is not known.
attribute [local irreducible] Http.splitTarget

/-- A later state of a vault, in which the keys and the codec are the same. -/
structure Vault.Steady (v v' : Vault) : Prop where
  enclave : v'.enclave = v.enclave
  codec : v'.codec = v.codec

/-- A later state of a node, in which the registry is the same, too. -/
structure Node.Steady (n n' : Node) : Prop extends n.vault.Steady n'.vault where
  registry : n'.registry = n.registry

namespace Node

variable {n n' n'' : Node}

theorem Steady.refl (n : Node) : n.Steady n := ⟨⟨rfl, rfl⟩, rfl⟩

theorem Steady.trans (h : n.Steady n') (h' : n'.Steady n'') : n.Steady n'' :=
  ⟨⟨h'.enclave.trans h.enclave, h'.codec.trans h.codec⟩, h'.registry.trans h.registry⟩

/-! ## Requests that are not announcements -/

theorem steady_replyRead (result : Except TransactionError Http.Response) :
    n.Steady (n.replyRead result).node := by
  cases result <;> exact .refl n

theorem steady_replySent {result : Except TransactionError Sent}
    (hsent : ∀ sent, result = .ok sent → n.vault.Steady sent.vault) :
    n.Steady (n.replySent result).node := by
  cases result with
  | error e => exact .refl n
  | ok sent => exact ⟨hsent sent rfl, rfl⟩

theorem steady_replyChanged {result : Except TransactionError (Http.Response × Vault)}
    (hchanged : ∀ response vault, result = .ok (response, vault) → n.vault.Steady vault) :
    n.Steady (n.replyChanged result).node := by
  cases result with
  | error e => exact .refl n
  | ok changed => exact ⟨hchanged _ _ rfl, rfl⟩

theorem steady_of_persist {v : Vault} {p : Payload} {recipients : List PublicKey} {sent : Sent}
    (hpersist : v.persist p recipients = .ok sent) : v.Steady sent.vault := by
  obtain ⟨_, -, -, rfl⟩ := Vault.persist_eq_ok hpersist
  exact ⟨rfl, rfl⟩

theorem steady_of_send {body : Bytes} {entropy entropy' : Entropy} {sent : Sent}
    (hsend : n.send body entropy = (.ok sent, entropy')) : n.vault.Steady sent.vault := by
  obtain ⟨parsed, _, -, hsend⟩ := Drawing.bind_eq_ok_iff.mp hsend
  obtain ⟨request, _, -, hsend⟩ := Drawing.bind_eq_ok_iff.mp hsend
  obtain ⟨_, _, _, -, -, hpersist⟩ := Vault.send_eq_ok hsend
  exact steady_of_persist hpersist

theorem steady_of_sendSigned {body : Bytes} {entropy entropy' : Entropy} {sent : Sent}
    (hsend : n.sendSigned body entropy = (.ok sent, entropy')) : n.vault.Steady sent.vault := by
  obtain ⟨parsed, _, -, hsend⟩ := Drawing.bind_eq_ok_iff.mp hsend
  obtain ⟨request, _, -, hsend⟩ := Drawing.bind_eq_ok_iff.mp hsend
  obtain ⟨_, _, _, _, -, -, -, hpersist⟩ := Vault.sendSigned_eq_ok hsend
  exact steady_of_persist hpersist

theorem steady_of_storeRaw {body : Bytes} {entropy entropy' : Entropy} {response : Http.Response}
    {vault : Vault} (hstore : n.storeRaw body entropy = (.ok (response, vault), entropy')) :
    n.vault.Steady vault := by
  obtain ⟨parsed, _, -, hstore⟩ := Drawing.bind_eq_ok_iff.mp hstore
  obtain ⟨request, _, -, hstore⟩ := Drawing.bind_eq_ok_iff.mp hstore
  obtain ⟨⟨hash, v⟩, _, hstored, hstore⟩ := Drawing.bind_eq_ok_iff.mp hstore
  cases hstore
  obtain ⟨_, _, -, -, rfl⟩ := Vault.storeRaw_eq_ok hstored
  exact ⟨rfl, rfl⟩

theorem steady_push (body : Bytes) : n.Steady (n.push body).node := by
  rw [push]
  split
  next => exact .refl n
  next p _ =>
    refine steady_replyChanged fun response vault hstored => ?_
    obtain ⟨⟨hash, v⟩, hstore, hstored⟩ := bind_eq_ok_iff.mp hstored
    cases hstored
    obtain ⟨-, ⟨-, rfl⟩ | ⟨_, _, _, -, -, -, -, rfl⟩⟩ := Vault.storePayload_eq_ok_iff.mp hstore
    · exact ⟨rfl, rfl⟩
    · exact ⟨rfl, rfl⟩

theorem exists_answer_of_perform {route : Route} (hroute : route ≠ .announcement)
    (r : Http.Request) (entropy : Entropy) :
    ∃ answer rest, n.perform route r entropy = (.answered answer, rest) ∧
      n.Steady answer.node := by
  cases route with
  | announcement => exact absurd rfl hroute
  | upcheck | directory | challenge => exact ⟨_, _, rfl, .refl n⟩
  | push => exact ⟨_, _, rfl, steady_push r.body⟩
  | send =>
    exact ⟨_, _, rfl, steady_replySent fun sent hsent => steady_of_send (Prod.ext hsent rfl)⟩
  | sendSigned =>
    exact ⟨_, _, rfl, steady_replySent fun sent hsent => steady_of_sendSigned (Prod.ext hsent rfl)⟩
  | storeRaw =>
    refine ⟨_, _, rfl, steady_replyChanged fun response vault hstored => ?_⟩
    exact steady_of_storeRaw (Prod.ext hstored rfl)
  | delete hash =>
    refine ⟨_, _, rfl, steady_replyChanged fun response vault hdeleted => ?_⟩
    obtain ⟨v, hdelete, hdeleted⟩ := bind_eq_ok_iff.mp hdeleted
    cases hdeleted
    obtain ⟨_, -, hdelete⟩ := bind_eq_ok_iff.mp hdelete
    cases hdelete
    exact ⟨rfl, rfl⟩
  | createPayload | openPayload | isSender | participants | mandatory | receive =>
    exact ⟨_, _, rfl, steady_replyRead _⟩

/-- A post to any other path than that of announcements is answered at once. -/
theorem exists_answer_of_post {r : Http.Request} (hmethod : r.method = "POST")
    (hpath : r.path ≠ "/partyinfo") (entropy : Entropy) :
    ∃ answer rest, n.handle r entropy = (.answered answer, rest) ∧ n.Steady answer.node := by
  rw [handle]
  cases hroute : Route.ofRequest r with
  | error e => exact ⟨_, _, rfl, .refl n⟩
  | ok route =>
    refine exists_answer_of_perform (fun heq => ?_) r entropy
    subst heq
    rw [Route.ofRequest] at hroute
    split at hroute
    next =>
      have hasks := Route.asks_of_ofTransaction hroute (by rw [hmethod]; decide)
      cases hasks
    next =>
      have hfixed := Route.mem_fixed_of_ofFixed hroute
      simp [Route.fixed] at hfixed
      exact hpath hfixed.1

/-! ## What a steady node answers -/

theorem Steady.answerChallenge (h : n.Steady n') (body : Bytes) :
    n'.answerChallenge body = n.answerChallenge body := by
  rw [Node.answerChallenge, h.enclave, h.codec, Node.answerChallenge]

theorem Steady.startDiscovery (h : n.Steady n') (announced : Directory) :
    n'.startDiscovery announced = n.startDiscovery announced := by
  rw [Node.startDiscovery, h.enclave, h.codec, h.registry, Node.startDiscovery]

theorem handle_challenge {r : Http.Request} (hmethod : r.method = "POST")
    (hpath : r.path = "/partyinfo/validate") (entropy : Entropy) :
    n.handle r entropy = (.answered (n.reply (n.challengeResponse r.body)), entropy) := by
  have hother : Text.dropStart? "/transaction/" "/partyinfo/validate" = none := by decide
  have hroute : Route.ofRequest r = .ok .challenge := by
    simp [Route.ofRequest, hpath, hother, Route.ofFixed, Route.fixed, hmethod]
  rw [handle, hroute]
  rfl

theorem handle_announcement {r : Http.Request} (hmethod : r.method = "POST")
    (hpath : r.path = "/partyinfo") {announced : Directory}
    (hread : readDirectory r.body = .ok announced) (entropy : Entropy) :
    n.handle r entropy = (.discovering (n.startDiscovery announced entropy).1,
      (n.startDiscovery announced entropy).2) := by
  have hother : Text.dropStart? "/transaction/" "/partyinfo" = none := by decide
  have hroute : Route.ofRequest r = .ok .announcement := by
    simp [Route.ofRequest, hpath, hother, Route.ofFixed, Route.fixed, hmethod]
  simp only [handle, hroute, perform, hread]
  rfl

theorem exists_listing_of_mem_pushes {publication : Publication} {url : String} {body : Bytes}
    (hpush : (url, body) ∈ n.pushes publication) :
    ∃ l ∈ n.registry.directory.listings, l.url = url := by
  obtain ⟨recipient, -, hpush⟩ := List.mem_filterMap.mp hpush
  simp only [pushTo, Option.bind_eq_bind, Option.bind_eq_some_iff] at hpush
  obtain ⟨_, -, _, hurl, _, -, heq⟩ := hpush
  cases heq
  exact ⟨_, Directory.mem_listings_of_urlOf? hurl, rfl⟩

end Node

namespace Mesh

variable {α β : Type} {m m' m'' : Mesh} {known : String → Prop} {index : Nat} {member : Member}

/-- A later state of a mesh, in which every node is steady. -/
structure Steady (m m' : Mesh) : Prop where
  locate : m'.locate = m.locate
  moment : m'.moment = m.moment
  count : m'.members.length = m.members.length
  members : ∀ index member, m.member? index = some member →
    ∃ member', m'.member? index = some member' ∧ member.node.Steady member'.node

theorem Steady.of_eq (hlocate : m'.locate = m.locate) (hmoment : m'.moment = m.moment)
    (hmembers : m'.members = m.members) : m.Steady m' := by
  refine ⟨hlocate, hmoment, congrArg _ hmembers, fun index member hmember => ?_⟩
  rw [member?, hmembers]
  exact ⟨member, hmember, .refl _⟩

theorem Steady.refl (m : Mesh) : m.Steady m := .of_eq rfl rfl rfl

theorem Steady.trans (h : m.Steady m') (h' : m'.Steady m'') : m.Steady m'' := by
  refine ⟨h'.locate.trans h.locate, h'.moment.trans h.moment, h'.count.trans h.count,
    fun index member hmember => ?_⟩
  obtain ⟨member', hmember', hsteady⟩ := h.members index member hmember
  obtain ⟨member'', hmember'', hsteady'⟩ := h'.members index member' hmember'
  exact ⟨member'', hmember'', hsteady.trans hsteady'⟩

theorem Steady.exists_earlier (h : m.Steady m') {member' : Member}
    (hmember' : m'.member? index = some member') :
    ∃ member, m.member? index = some member ∧ member.node.Steady member'.node := by
  obtain ⟨hindex, -⟩ := List.getElem?_eq_some_iff.mp hmember'
  have hmember : m.member? index = some _ := List.getElem?_eq_getElem (h.count ▸ hindex)
  obtain ⟨_, hlater, hsteady⟩ := h.members index _ hmember
  cases hmember'.symm.trans hlater
  exact ⟨_, hmember, hsteady⟩

theorem member?_setNode (m : Mesh) (index other : Nat) (node : Node) :
    (m.setNode index node).member? other =
      (m.member? other).map fun member => if index = other then { member with node } else member :=
  List.getElem?_modify _ _ _ _

theorem nodeAt_of_member (hmember : m.member? index = some member) (default : Node) :
    m.nodeAt index default = member.node := by
  rw [nodeAt, hmember, Option.map_some, Option.getD_some]

theorem steady_setNode (hmember : m.member? index = some member) {node : Node}
    (hsteady : member.node.Steady node) : m.Steady (m.setNode index node) := by
  refine ⟨rfl, rfl, List.length_modify _ _ _, fun other member' hmember' => ?_⟩
  rw [member?_setNode, hmember', Option.map_some]
  refine ⟨_, rfl, ?_⟩
  split
  next heq =>
    subst heq
    cases hmember.symm.trans hmember'
    exact hsteady
  next => exact .refl _

theorem get_apply (m : Mesh) : (get : StateM Mesh Mesh) m = (m, m) := rfl

theorem bind_apply (act : StateM Mesh α) (next : α → StateM Mesh β) (m : Mesh) :
    (act >>= next) m = next (act m).1 (act m).2 := rfl

/-! ## Posts that are not announcements -/

/-- At the urls that the nodes know, challenges and pushed payloads do not come in as announcements.
A url with a query of its own could make them do so. -/
structure Plain (known : String → Prop) (m : Mesh) : Prop where
  listed : ∀ index member, m.member? index = some member →
    ∀ l ∈ member.node.registry.directory.listings, known l.url
  apart : ∀ url, known url → ∀ path ∈ [challengePath, "push"], ∀ index target,
    m.locate url path = .member index target → (Http.splitTarget target).1 ≠ "/partyinfo"

theorem Plain.of_steady (h : m.Plain known) (hsteady : m.Steady m') : m'.Plain known := by
  refine ⟨fun index member' hmember' => ?_, hsteady.locate ▸ h.apart⟩
  obtain ⟨member, hmember, hsame⟩ := hsteady.exists_earlier hmember'
  rw [hsame.registry]
  exact h.listed index member hmember

/-- A computation leaves every node steady. -/
def Quiet (known : String → Prop) (act : StateM Mesh α) : Prop :=
  ∀ m : Mesh, m.Plain known → m.Steady (act m).2

theorem quiet_pure (a : α) : Quiet known (pure a : StateM Mesh α) := fun m _ => .refl m

theorem Quiet.bind {act : StateM Mesh α} {next : α → StateM Mesh β} (hact : Quiet known act)
    (hnext : ∀ a, Quiet known (next a)) : Quiet known (act >>= next) := fun m hm =>
  (hact m hm).trans (hnext _ _ (hm.of_steady (hact m hm)))

theorem quiet_record (url : String) (reply : Reply) : Quiet known (record url reply) :=
  fun _ _ => .of_eq rfl rfl rfl

theorem quiet_postPushes {post : Post} {pushes : List (String × Bytes)}
    (hpost : ∀ push ∈ pushes, Quiet known (post push.1 "push" push.2)) :
    Quiet known (postPushes post pushes) := by
  induction pushes with
  | nil => exact quiet_pure ()
  | cons push pushes ih =>
    rw [List.forall_mem_cons] at hpost
    exact hpost.1.bind fun _ => ih hpost.2

theorem quiet_publish {post : Post}
    (hpost : ∀ url body, known url → Quiet known (post url "push" body)) (index : Nat)
    (publication : Publication) : Quiet known (publish post index publication) := by
  intro m hm
  simp only [publish, bind_apply, get_apply]
  cases hmember : m.member? index with
  | none => exact .refl m
  | some member =>
    simp only
    split
    next =>
      refine quiet_postPushes (fun (url, body) hpush => hpost url body ?_) m hm
      obtain ⟨l, hl, rfl⟩ := Node.exists_listing_of_mem_pushes hpush
      exact hm.listed index member hmember l hl
    next => exact .of_eq rfl rfl rfl

/-! ## Answers -/

section Answers

variable {post : Post}

/-- What a member does once its answer is there. -/
def settle (post : Post) (index : Nat) (answer : Node.Answer) : StateM Mesh Http.Response := do
  putNode index answer.node
  match answer.publication with
  | some publication => publish post index publication
  | none => pure ()
  pure answer.response

theorem settle_eq (post : Post) (index : Nat) (answer : Node.Answer) (m : Mesh) :
    settle post index answer m = (answer.response,
      match answer.publication with
      | some publication => (publish post index publication (m.setNode index answer.node)).2
      | none => m.setNode index answer.node) := by
  rcases answer with ⟨response, node, _ | publication⟩ <;> rfl

theorem request_of_none {r : Http.Request} (hmember : m.member? index = none) :
    request post index r m = (.notFound, m) := by
  simp only [request, bind_apply, get_apply, hmember]
  rfl

theorem request_of_answered {r : Http.Request} {answer : Node.Answer} {entropy : Entropy}
    (hmember : m.member? index = some member)
    (hhandle : member.node.handle r m.entropy = (.answered answer, entropy)) :
    request post index r m = settle post index answer { m with entropy } := by
  simp only [request, bind_apply, get_apply, hmember,
    drawing, hhandle]
  rfl

theorem request_of_discovering {r : Http.Request} {d : Discovery} {entropy : Entropy}
    {replies : List (Listing × Reply)} (hmember : m.member? index = some member)
    (hhandle : member.node.handle r m.entropy = (.discovering d, entropy))
    (hreplies : postChallenges post d.posts { m with entropy } = (replies, m')) :
    request post index r m =
      settle post index ((m'.nodeAt index member.node).conclude d replies m'.moment) m' := by
  simp only [request, bind_apply, get_apply, hmember,
    drawing, hhandle, hreplies]
  rfl

theorem steady_settle {answer : Node.Answer} (hm : m.Plain known)
    (hpost : ∀ url body, known url → Quiet known (post url "push" body))
    (hmember : m.member? index = some member) (hsteady : member.node.Steady answer.node) :
    m.Steady (settle post index answer m).2 := by
  have hset := steady_setNode hmember hsteady
  rw [settle_eq]
  cases answer.publication with
  | none => exact hset
  | some publication =>
    exact hset.trans (quiet_publish hpost index publication _ (hm.of_steady hset))

end Answers

/-- The request that a post is at its target. -/
def arriving (target : String) (body : Bytes) : Http.Request where
  method := "POST"
  path := (Http.splitTarget target).1
  query := (Http.splitTarget target).2
  body

theorem path_arriving (target : String) (body : Bytes) :
    (arriving target body).path = (Http.splitTarget target).1 := rfl

variable {level : Nat} {url path target : String} {body : Bytes}

theorem post_of_request {response : Http.Response}
    (hlocate : m.locate url path = .member index target)
    (hrequest : request (post level) index (arriving target body) m = (response, m')) :
    post (level + 1) url path body m =
      let reply := replyOfResponse (Url.join url path) response
      (reply, (record (Url.join url path) reply m').2) := by
  simp only [post, bind_apply, get_apply, hlocate]
  rw [← arriving.eq_1, hrequest]
  rfl

theorem quiet_post (level : Nat) {url path : String} (hknown : known url)
    (hpath : path ∈ [challengePath, "push"]) (body : Bytes) :
    Quiet known (post level url path body) := by
  induction level generalizing url path body with
  | zero => exact quiet_pure _
  | succ level ih =>
    intro m hm
    cases hlocate : m.locate url path with
    | outside behaviour =>
      simp only [post, bind_apply, get_apply, hlocate]
      cases behaviour <;> exact .of_eq rfl rfl rfl
    | member index target =>
      have hpushes (url : String) (body : Bytes) (hknown : known url) :
          Quiet known (post level url "push" body) := ih hknown (by simp) body
      have hrequest : m.Steady (request (post level) index (arriving target body) m).2 := by
        cases hmember : m.member? index with
        | none =>
          rw [request_of_none hmember]
          exact .refl m
        | some member =>
          have hmethod : (arriving target body).method = "POST" := rfl
          have hother : (arriving target body).path ≠ "/partyinfo" := by
            rw [path_arriving]
            exact hm.apart url hknown path hpath index target hlocate
          obtain ⟨answer, entropy, hhandle, hsteady⟩ :=
            Node.exists_answer_of_post hmethod hother m.entropy
          have hdrawn : m.Steady { m with entropy } := .of_eq rfl rfl rfl
          rw [request_of_answered hmember hhandle]
          exact hdrawn.trans (steady_settle (hm.of_steady hdrawn) hpushes hmember hsteady)
      rcases hresult : request (post level) index (arriving target body) m with ⟨response, m'⟩
      rw [hresult] at hrequest
      rw [post_of_request hlocate hresult]
      exact hrequest.trans (quiet_record _ _ _ (hm.of_steady hrequest))

/-- A challenge that a member opens comes back opened. -/
theorem reply_of_challenge {text : Bytes} (hlocate : m.locate url path = .member index target)
    (hpath : (Http.splitTarget target).1 = "/partyinfo/validate")
    (hmember : m.member? index = some member)
    (hanswer : member.node.answerChallenge body = .ok text) :
    (post (level + 1) url path body m).1 = .ok text := by
  have hmethod : (arriving target body).method = "POST" := rfl
  have hhandle : member.node.handle (arriving target body) m.entropy = _ :=
    Node.handle_challenge hmethod ((path_arriving target body).trans hpath) m.entropy
  have hrequest : request (post level) index (arriving target body) m = _ :=
    request_of_answered hmember hhandle
  rw [settle_eq] at hrequest
  rw [post_of_request hlocate hrequest]
  have hresponse : member.node.challengeResponse (arriving target body).body = .bytes 200 text := by
    change member.node.challengeResponse body = _
    rw [Node.challengeResponse, hanswer]
  change replyOfResponse _ (member.node.challengeResponse (arriving target body).body) = _
  rw [hresponse]
  rfl

/-! ## One challenge after the other -/

section Challenges

variable {post : Post} {posts : List (Listing × Bytes)} {l : Listing} {reply : Reply}

theorem quiet_postChallenges
    (hpost : ∀ p ∈ posts, Quiet known (post p.1.url challengePath p.2)) :
    Quiet known (postChallenges post posts) := by
  induction posts with
  | nil => exact quiet_pure _
  | cons first rest ih =>
    rw [List.forall_mem_cons] at hpost
    exact hpost.1.bind fun _ => (ih hpost.2).bind fun _ => quiet_pure _

theorem map_fst_postChallenges (post : Post) (posts : List (Listing × Bytes)) (m : Mesh) :
    (postChallenges post posts m).1.map Prod.fst = posts.map Prod.fst := by
  induction posts generalizing m with
  | nil => rfl
  | cons first rest ih => exact congrArg (first.1 :: ·) (ih _)

/-- A reply that does not depend on what has been posted before is among the replies. -/
theorem mem_postChallenges (hm : m.Plain known)
    (hpost : ∀ p ∈ posts, Quiet known (post p.1.url challengePath p.2)) (hmem : (l, body) ∈ posts)
    (hreply : ∀ m' : Mesh, m.Steady m' → (post l.url challengePath body m').1 = reply) :
    (l, reply) ∈ (postChallenges post posts m).1 := by
  induction posts generalizing m with
  | nil => cases hmem
  | cons first rest ih =>
    rw [List.forall_mem_cons] at hpost
    have hfirst := hpost.1 m hm
    rcases List.mem_cons.mp hmem with rfl | hmem
    · exact List.mem_cons.mpr (.inl (congrArg (l, ·) (hreply m (.refl m)).symm))
    · refine List.mem_cons_of_mem _ (ih (hm.of_steady hfirst) hpost.2 hmem fun m' hsteady => ?_)
      exact hreply m' (hfirst.trans hsteady)

end Challenges

end Mesh

end SealedExchange
