import SealedExchange.Proofs.Node.Effects
import SealedExchange.Proofs.Peer.Announcement

/-! # What a request leaves as it was

A request that is refused leaves no trace: its effects happen all together or not at all. Requests
that only ask leave none even if they succeed.
-/

namespace SealedExchange

/-! ## Requests that only ask -/

/-- The paths that answer posts without keeping anything. -/
def Http.askingPaths : List String :=
  ["/encodedpayload/create", "/encodedpayload/decrypt", "/partyinfo/validate"]

/-- A request that only asks: by its method, or by its path although it carries a body. -/
def Http.Request.Asks (r : Http.Request) : Prop :=
  r.method = "GET" ∨ r.method = "POST" ∧ r.path ∈ Http.askingPaths

/-- Tests whether a route leads to nothing but an answer. -/
def Route.asks : Route → Bool
  | .push | .announcement | .send | .sendSigned | .storeRaw | .delete _ => false
  | .upcheck | .directory | .challenge | .createPayload | .openPayload | .isSender _
  | .participants _ | .mandatory _ | .receive _ => true

namespace Route

theorem asks_of_mem_fixed : ∀ entry ∈ fixed,
    entry.2.1 = "GET" ∨ entry.1 ∈ Http.askingPaths → entry.2.2.asks = true := by
  simp [fixed, asks, Http.askingPaths]

theorem mem_fixed_of_ofFixed {method path : String} {route : Route}
    (hroute : ofFixed method path = .ok route) : (path, method, route) ∈ fixed := by
  rw [ofFixed] at hroute
  split at hroute
  next => cases hroute
  next =>
    split at hroute
    next path' method' route' hfind =>
      cases hroute
      obtain ⟨hlisted, hpath⟩ := List.mem_filter.mp (List.mem_of_find?_eq_some hfind)
      obtain rfl := of_decide_eq_true hpath
      obtain rfl : method' = method := by simpa using List.find?_some hfind
      exact hlisted
    next => cases hroute

theorem asks_of_ofFixed {method path : String} {route : Route}
    (hroute : ofFixed method path = .ok route)
    (hasks : method = "GET" ∨ path ∈ Http.askingPaths) : route.asks = true :=
  asks_of_mem_fixed _ (mem_fixed_of_ofFixed hroute) hasks

/-- Of the routes about a stored message, only forgetting it is more than a question. -/
theorem asks_of_ofTransaction {method rest query : String} {route : Route}
    (hroute : ofTransaction method rest query = .ok route) (hmethod : method ≠ "DELETE") :
    route.asks = true := by
  rw [ofTransaction] at hroute
  split at hroute
  next => cases hroute
  next encoded action _ =>
    rw [if_neg fun h => hmethod h.2] at hroute
    split at hroute
    next => cases hroute
    next =>
      obtain ⟨hash, -, hroute⟩ := bind_eq_ok_iff.mp hroute
      cases action with
      | message =>
        obtain ⟨request, -, rfl⟩ := map_eq_ok_iff.mp hroute
        rfl
      | isSender => cases hroute; rfl
      | participants => cases hroute; rfl
      | mandatory => cases hroute; rfl

theorem asks_of_ofRequest {r : Http.Request} {route : Route} (hroute : ofRequest r = .ok route)
    (hr : r.Asks) : route.asks = true := by
  rw [ofRequest] at hroute
  split at hroute
  next =>
    -- A post about a stored message has no route at all.
    refine asks_of_ofTransaction hroute ?_
    rcases hr with hmethod | ⟨hmethod, -⟩ <;> rw [hmethod] <;> decide
  next => exact asks_of_ofFixed hroute (hr.imp_right And.right)

end Route

namespace Node

variable {n : Node} {r : Http.Request}

/-! ## Answers that leave no trace -/

/-- An answer leaves the node as it was, and nothing is to be pushed. -/
structure Answer.Spares (a : Answer) (n : Node) : Prop where
  node : a.node = n
  publication : a.publication = none

theorem spares_reply (response : Http.Response) : (n.reply response).Spares n := ⟨rfl, rfl⟩

theorem spares_replyRead (result : Except TransactionError Http.Response) :
    (n.replyRead result).Spares n := by
  cases result <;> exact spares_reply _

theorem spares_replySent {result : Except TransactionError Sent}
    (hrefused : 400 ≤ (n.replySent result).response.status) : (n.replySent result).Spares n := by
  cases result with
  | error e => exact spares_reply _
  | ok sent => exact absurd (show 400 ≤ 201 from hrefused) (by decide)

theorem spares_replyChanged {result : Except TransactionError (Http.Response × Vault)}
    (haccepted : ∀ response vault, result = .ok (response, vault) → response.status < 400)
    (hrefused : 400 ≤ (n.replyChanged result).response.status) :
    (n.replyChanged result).Spares n := by
  cases result with
  | error e => exact spares_reply _
  | ok changed => exact absurd hrefused (Nat.not_le.mpr (haccepted changed.1 changed.2 rfl))

theorem spares_push {body : Bytes} (hrefused : 400 ≤ (n.push body).response.status) :
    (n.push body).Spares n := by
  rw [push] at hrefused ⊢
  split at hrefused
  next => exact spares_reply _
  next p _ =>
    refine spares_replyChanged (fun response vault hstored => ?_) hrefused
    obtain ⟨⟨hash, v⟩, -, hstored⟩ := bind_eq_ok_iff.mp hstored
    cases hstored
    exact (by decide : 201 < 400)

theorem status_of_storeRaw {body : Bytes} {entropy entropy' : Entropy} {response : Http.Response}
    {vault : Vault} (hstored : n.storeRaw body entropy = (.ok (response, vault), entropy')) :
    response.status < 400 := by
  obtain ⟨parsed, _, -, hstored⟩ := Drawing.bind_eq_ok_iff.mp hstored
  obtain ⟨request, _, -, hstored⟩ := Drawing.bind_eq_ok_iff.mp hstored
  obtain ⟨⟨hash, v⟩, _, -, hstored⟩ := Drawing.bind_eq_ok_iff.mp hstored
  cases hstored
  exact (by decide : 200 < 400)

/-- An announcement that is refused is not taken over. What is taken over could only be refused
later if the directory had become too long to be written. -/
theorem spares_conclude {d : Discovery} {replies : List (Listing × Reply)} {moment : Int64}
    (hfits : (n.conclude d replies moment).node.registry.directory.Fits)
    (hrefused : 400 ≤ (n.conclude d replies moment).response.status) :
    (n.conclude d replies moment).Spares n := by
  cases hfinish : d.finish n.registry replies moment with
  | error e =>
    rw [conclude_of_finish_error hfinish]
    exact spares_reply _
  | ok registry =>
    have htaken : n.finishDiscovery d replies moment = .ok { n with registry } :=
      map_eq_ok_iff.mpr ⟨registry, hfinish, rfl⟩
    -- The directory has been taken over, so the answer must not fail any more.
    rw [node_conclude_of_finish htaken] at hfits
    obtain ⟨bytes, hencode⟩ := hfits.exists_encode
    have hbytes : ({ n with registry } : Node).directoryBytes = .ok bytes := by
      rw [directoryBytes, hencode, mapError_ok]
    rw [conclude_of_finish_ok hfinish, hbytes] at hrefused
    exact absurd (show 400 ≤ 200 from hrefused) (by decide)

/-! ## Requests that leave no trace -/

variable {replies : Discovery → List (Listing × Reply)} {moment : Int64} {entropy : Entropy}

theorem spares_of_asks {route : Route} (hasks : route.asks = true) :
    (n.settle (n.perform route r entropy).1 replies moment).Spares n := by
  cases route with
  | push | announcement | send | sendSigned | storeRaw | delete => cases hasks
  | upcheck | directory | challenge => exact spares_reply _
  | createPayload | openPayload | isSender | participants | mandatory | receive =>
    exact spares_replyRead _

theorem spares_of_refused {route : Route}
    (hfits : (n.settle (n.perform route r entropy).1 replies moment).node.registry.directory.Fits)
    (hrefused : 400 ≤ (n.settle (n.perform route r entropy).1 replies moment).response.status) :
    (n.settle (n.perform route r entropy).1 replies moment).Spares n := by
  cases route with
  | push => exact spares_push hrefused
  | announcement =>
    rw [perform] at hfits hrefused ⊢
    cases hannounced : readDirectory r.body with
    | error e => exact spares_reply _
    | ok announced =>
      rw [hannounced] at hfits hrefused
      exact spares_conclude hfits hrefused
  | send | sendSigned => exact spares_replySent hrefused
  | storeRaw =>
    refine spares_replyChanged (fun response vault hstored => ?_) hrefused
    exact status_of_storeRaw (Prod.ext hstored rfl)
  | delete hash =>
    refine spares_replyChanged (fun response vault hdeleted => ?_) hrefused
    obtain ⟨v, -, hdeleted⟩ := bind_eq_ok_iff.mp hdeleted
    cases hdeleted
    exact (by decide : 204 < 400)
  | upcheck | directory | challenge | createPayload | openPayload | isSender | participants
  | mandatory | receive => exact spares_of_asks rfl

theorem spares_settle (n : Node) (replies : Discovery → List (Listing × Reply)) (moment : Int64)
    (entropy : Entropy)
    (h : r.Asks ∨ 400 ≤ (n.settle (n.handle r entropy).1 replies moment).response.status ∧
      (n.settle (n.handle r entropy).1 replies moment).node.registry.directory.Fits) :
    (n.settle (n.handle r entropy).1 replies moment).Spares n := by
  rw [handle] at h ⊢
  cases hroute : Route.ofRequest r with
  | error e => exact spares_reply _
  | ok route =>
    rw [hroute] at h
    rcases h with hasks | ⟨hrefused, hfits⟩
    · exact spares_of_asks (Route.asks_of_ofRequest hroute hasks)
    · exact spares_of_refused hfits hrefused

/-- A request, carried out effect by effect, comes to the same as when it is handled. If it only
asks, or if it is refused, the node is as it was and nothing is pushed. An announcement could only
fail after it was taken over if the directory had outgrown the 64 bits that its lengths have. -/
theorem spares_of_serve {response : Http.Response} {w : World}
    (hserve : Acting.serve r replies moment { node := n, entropy } = (response, w)) :
    (∃ handling, n.handle r entropy = (handling, w.entropy) ∧
      n.settle handling replies moment =
        { response, node := w.node, publication := w.publication }) ∧
    (r.Asks → w.node = n ∧ w.publication = none) ∧
    (400 ≤ response.status → w.node.registry.directory.Fits →
      w.node = n ∧ w.publication = none) := by
  rw [Acting.serve_eq] at hserve
  obtain ⟨rfl, rfl⟩ := Prod.mk.inj hserve
  refine ⟨⟨_, rfl, rfl⟩, fun hasks => ?_, fun hrefused hfits => ?_⟩
  · have hspares := spares_settle n replies moment entropy (.inl hasks)
    exact ⟨hspares.node, hspares.publication⟩
  · have hspares := spares_settle n replies moment entropy (.inr ⟨hrefused, hfits⟩)
    exact ⟨hspares.node, hspares.publication⟩

/-! ## An announcement that nobody vouches for -/

/-- The announcement of a visit. -/
def announcing : Http.Request where
  method := "POST"
  path := "/partyinfo"
  body := visit.encode.toOption.getD []

/-- No challenge is answered. -/
def unanswered (d : Discovery) : List (Listing × Reply) :=
  d.posts.map fun (l, _) => (l, .error (.timeout l.url))

theorem status_announcing : (Acting.serve announcing unanswered 1
    { node := host, entropy := Vault.repeating 5 }).1.status = 403 := by
  decide +kernel

theorem registry_announcing : (Acting.serve announcing unanswered 1
    { node := host, entropy := Vault.repeating 5 }).2.node.registry = host.registry := by
  decide +kernel

theorem fits_host : host.registry.directory.Fits :=
  ⟨by decide +kernel, by decide +kernel, by decide +kernel⟩

/-- The announcement is refused after its challenges were sealed. -/
theorem spares_of_serve_announcing : ∃ response w,
    Acting.serve announcing unanswered 1 { node := host, entropy := Vault.repeating 5 } =
      (response, w) ∧ response.status = 403 ∧ w.node.registry.directory.Fits ∧
      w.node = host ∧ w.publication = none := by
  have hstatus := status_announcing
  have hregistry := registry_announcing
  cases hserve : Acting.serve announcing unanswered 1
      { node := host, entropy := Vault.repeating 5 } with
  | mk response w =>
    rw [hserve] at hstatus hregistry
    have hfits : w.node.registry.directory.Fits := hregistry ▸ fits_host
    have hrefused : 400 ≤ response.status := by
      rw [hstatus]
      decide
    obtain ⟨-, -, hspares⟩ := spares_of_serve hserve
    obtain ⟨hnode, hpublication⟩ := hspares hrefused hfits
    exact ⟨response, w, rfl, hstatus, hfits, hnode, hpublication⟩

end Node

end SealedExchange
