import SealedExchange.Node.Basic
import SealedExchange.Proofs.Success

/-! # Requests effect by effect

`Node.handle` gives a new node back if a request succeeds. Here a request is carried out one effect
after the other, in the order in which the stores, the registry and the publisher get to see them,
and what has been done stays done when a later step fails. Both agree because every step that may
fail comes before the first effect, with one exception: an announcement is taken over before the
directory is written for the answer.
-/

namespace SealedExchange

/-- A node at work on a request, with what it has handed over to be pushed and the random bytes that
are still to come. -/
structure World where
  node : Node
  publication : Option Publication := none
  entropy : Entropy

/-- A computation on a node at work. It may fail, and its effects up to then remain. -/
abbrev Acting (ε : Type) := ExceptT ε (StateM World)

namespace Acting

variable {ε α β : Type}

/-! ## Single effects -/

/-- The node as it is. -/
def look : Acting ε Node := fun w => (.ok w.node, w)

/-- A result that has no effect. -/
def ofExcept (r : Except ε α) : Acting ε α := fun w => (r, w)

/-- Draws random bytes. -/
def draws (d : Drawing ε α) : Acting ε α := fun w =>
  let (r, entropy) := d w.entropy
  (r, { w with entropy })

/-- Changes the stored messages, unless the store refuses. -/
def changeMessages
    (change : Store EncryptedTransaction → Except StorageError (Store EncryptedTransaction)) :
    Acting TransactionError Unit := fun w =>
  match change w.node.vault.messages with
  | .ok messages => (.ok (), { w with node.vault.messages := messages })
  | .error e => (.error (.storage e), w)

/-- Keeps a message that is to be sent later, unless the store refuses. -/
def saveRaw (record : EncryptedRawTransaction) : Acting TransactionError Unit := fun w =>
  match w.node.vault.raws.save record with
  | .ok raws => (.ok (), { w with node.vault.raws := raws })
  | .error e => (.error (.storage e), w)

/-- Hands a payload over to be pushed to its recipients. -/
def publish (publication : Publication) : Acting ε Unit := fun w =>
  (.ok (), { w with publication := some publication })

/-- Takes over what an announcement has proven. -/
def takeOver (d : Discovery) (replies : List (Listing × Reply)) (moment : Int64) :
    Acting DiscoveryError Unit := fun w =>
  match d.finish w.node.registry replies moment with
  | .ok registry => (.ok (), { w with node.registry := registry })
  | .error e => (.error e, w)

/-! ## Requests -/

/-- Keeps a new payload, and then hands it over for the recipients that are not managed here. -/
def persist (p : Payload) (recipients : List PublicKey) : Acting TransactionError SendResponse := do
  let v := (← look).vault
  let record ← ofExcept ((EncryptedTransaction.ofPayload p v.codec).mapError .codec)
  changeMessages (·.save record)
  publish { payload := p, recipients := recipients.filter fun key => !v.enclave.manages key }
  pure
    { hash := p.hash
      sender := p.sender
      managedParties := .ofList (recipients.filter v.enclave.manages) }

/-- Sends the message of a request body. -/
def send (body : Bytes) : Acting TransactionError Http.Response := do
  let v := (← look).vault
  let parsed ← ofExcept (Api.readBody Api.SendBody.reader body)
  let request ← ofExcept (parsed.request v.enclave.defaultKey)
  let prepared ← ofExcept (v.prepare request.sender request.recipients request.privacy)
  let p ← draws (Drawing.mapError .enclave
    (v.enclave.encryptPayload request.message request.sender prepared.recipients prepared.metadata))
  let response ← persist p prepared.recipients
  pure (.json 201 (Api.sendDocument response))

/-- Sends the stored message that a request body names. -/
def sendSigned (body : Bytes) : Acting TransactionError Http.Response := do
  let v := (← look).vault
  let parsed ← ofExcept (Api.readBody Api.SendSignedBody.reader body)
  let request ← ofExcept parsed.request
  match ← ofExcept ((v.raws.retrieve request.hash).mapError .storage) with
  | none => ofExcept (.error (.rawNotFound request.hash))
  | some record => do
    let prepared ← ofExcept (v.prepare record.sender request.recipients request.privacy)
    let p ← draws (Drawing.mapError .enclave
      (v.enclave.encryptRawPayload record.toRaw prepared.recipients prepared.metadata))
    let response ← persist p prepared.recipients
    pure (.json 201 (Api.sendDocument response))

/-- Stores the message of a request body. -/
def storeRaw (body : Bytes) : Acting TransactionError Http.Response := do
  let v := (← look).vault
  let parsed ← ofExcept (Api.readBody Api.StoreRawBody.reader body)
  let request ← ofExcept parsed.request
  let raw ← draws (Drawing.mapError .enclave
    (v.enclave.encryptRaw request.message (request.sender.getD v.enclave.defaultKey)))
  saveRaw (.ofRaw raw)
  pure (.json 200 (Api.storeRawDocument (EncryptedRawTransaction.ofRaw raw).hash))

/-- Takes a delivered payload in. -/
def takeIn (p : Payload) : Acting TransactionError MessageHash := do
  let v := (← look).vault
  let affected ← ofExcept (Privacy.resolveClaims v.messages p)
  match ← ofExcept (Vault.screen v.enclave p affected) with
  | none => pure p.hash
  | some p => do
    let stored ← ofExcept ((v.messages.retrieve p.hash).mapError .storage)
    let change ← ofExcept (Vault.changeFor v.codec p stored)
    changeMessages change.apply
    pure p.hash

/-- Takes in a payload that another node delivers. -/
def push (body : Bytes) : Acting TransactionError Http.Response := do
  let n ← look
  match n.vault.codec.decode body with
  | .error e => pure (.text 400 e.message)
  | .ok p => do
    let hash ← takeIn p
    pure (.text 201 hash.toBase64)

/-- Forgets a message. -/
def delete (hash : MessageHash) : Acting TransactionError Http.Response := do
  changeMessages (·.delete hash)
  pure (.text 204 "")

/-- Answers an announcement, given the replies to its challenges. -/
def announce (body : Bytes) (replies : Discovery → List (Listing × Reply)) (moment : Int64) :
    Acting DiscoveryError Http.Response := do
  let n ← look
  let announced ← ofExcept (Node.readDirectory body)
  let d ← draws (ExceptT.lift (n.startDiscovery announced))
  takeOver d (replies d) moment
  let bytes ← ofExcept (← look).directoryBytes
  pure (.bytes 200 bytes)

/-- Answers a request that reads. -/
def read (result : Node → Except ε Http.Response) : Acting ε Http.Response := do
  ofExcept (result (← look))

/-- Gives a failure its response. -/
def responding (act : Acting ε Http.Response) (failed : ε → Http.Response) :
    StateM World Http.Response := fun w =>
  match act w with
  | (.ok response, w) => (response, w)
  | (.error e, w) => (failed e, w)

/-- Does what a route asks for. -/
def serveRoute (r : Http.Request) (replies : Discovery → List (Listing × Reply)) (moment : Int64)
    (route : Route) : StateM World Http.Response :=
  match route with
  | .upcheck => fun w =>
    (if w.node.vault.isUp then .text 200 "I'm up!" else .text 503 "Storage unavailable", w)
  | .directory => fun w => (.json 200 w.node.registry.directory.document, w)
  | .challenge => fun w => (w.node.challengeResponse r.body, w)
  | .announcement => responding (announce r.body replies moment) (·.response)
  | .push => responding (push r.body) (·.response)
  | .send => responding (send r.body) (·.response)
  | .sendSigned => responding (sendSigned r.body) (·.response)
  | .storeRaw => responding (storeRaw r.body) (·.response)
  | .createPayload => responding (do draws ((← look).createPayload r.body)) (·.response)
  | .openPayload => responding (read (·.openPayload r.body r.query)) (·.response)
  | .delete hash => responding (delete hash) (·.response)
  | .isSender hash =>
    responding (read fun n => do
      let sent ← n.vault.isSender hash
      .ok (.text 200 (if sent then "true" else "false"))) (·.response)
  | .participants hash =>
    responding (read fun n => do
      let keys ← n.vault.participants hash
      .ok (.text 200 (Api.keyList keys))) (·.response)
  | .mandatory hash =>
    responding (read fun n => do
      let keys ← n.vault.mandatoryRecipients hash
      .ok (.text 200 (Api.keyList keys.elems))) (·.response)
  | .receive request =>
    responding (read fun n => do
      let received ← n.vault.receive request
      .ok (.json 200 (Api.receiveDocument received))) (·.response)

/-- Handles a request. -/
def serve (r : Http.Request) (replies : Discovery → List (Listing × Reply)) (moment : Int64) :
    StateM World Http.Response :=
  match Route.ofRequest r with
  | .ok route => serveRoute r replies moment route
  | .error e => pure e.response

end Acting

namespace Node

/-- The answer to a request when the replies to its challenges are there, if it takes any. -/
def settle (n : Node) (handling : Handling) (replies : Discovery → List (Listing × Reply))
    (moment : Int64) : Answer :=
  match handling with
  | .answered answer => answer
  | .discovering d => n.conclude d (replies d) moment

/-- A node responds with what it settles when every challenge is answered in a fixed way. -/
theorem respond_eq_settle (n : Node) (r : Http.Request) (ask : Listing → Bytes → Reply)
    (moment : Int64) (entropy : Entropy) : n.respond r ask moment entropy =
      (n.settle (n.handle r entropy).1 (fun d => d.posts.map fun (l, body) => (l, ask l body))
        moment, (n.handle r entropy).2) := by
  simp only [respond, bind, StateT.bind]
  rcases n.handle r entropy with ⟨answer | d, rest⟩ <;> rfl

/-- The answer to a computation, where a failure changes nothing. -/
def answerTo {β : Type} (n : Node) (answer : β → Answer) (result : Except TransactionError β) :
    Answer :=
  match result with
  | .ok b => answer b
  | .error e => n.reply e.response

/-- What remains of an answer: the response, and the node at the end of its work. -/
def Answer.outcome (a : Answer) (entropy : Entropy) : Http.Response × World :=
  (a.response, { node := a.node, publication := a.publication, entropy })

theorem conclude_of_finish_error {n : Node} {d : Discovery} {replies : List (Listing × Reply)}
    {moment : Int64} {e : DiscoveryError}
    (hfinish : d.finish n.registry replies moment = .error e) :
    n.conclude d replies moment = n.reply e.response := by
  rw [conclude, finishDiscovery, hfinish]
  rfl

theorem conclude_of_finish_ok {n : Node} {d : Discovery} {replies : List (Listing × Reply)}
    {moment : Int64} {registry : Registry}
    (hfinish : d.finish n.registry replies moment = .ok registry) :
    n.conclude d replies moment =
      match ({ n with registry } : Node).directoryBytes with
      | .ok bytes => ({ n with registry } : Node).reply (.bytes 200 bytes)
      | .error e => ({ n with registry } : Node).reply e.response := by
  rw [conclude, finishDiscovery, hfinish]
  rfl

end Node

namespace Acting

variable {ε α β : Type} {n : Node} {w w' : World} {act act' : Acting ε Http.Response}
  {failed : ε → Http.Response}

/-! ## One step after the other -/

theorem responding_congr (h : act w = act' w') :
    responding act failed w = responding act' failed w' := by
  rw [responding, responding, h]

theorem responding_of_error {e : ε} (h : act w = (.error e, w')) :
    responding act failed w = (failed e, w') := by
  rw [responding, h]

theorem responding_look (k : Node → Acting ε Http.Response) (w : World) :
    responding (look >>= k) failed w = responding (k w.node) failed w :=
  responding_congr (bind_of_ok rfl)

theorem responding_ofExcept_ok (a : α) (k : α → Acting ε Http.Response) (w : World) :
    responding (ofExcept (.ok a) >>= k) failed w = responding (k a) failed w :=
  responding_congr (bind_of_ok rfl)

theorem responding_ofExcept_error (e : ε) (k : α → Acting ε Http.Response) (w : World) :
    responding (ofExcept (.error e) >>= k) failed w = (failed e, w) :=
  responding_of_error (bind_of_error rfl)

/-! ## Both come to the same -/

/-- Carried out effect by effect, a computation ends like one that only draws random bytes: if it
succeeds the answer tells what has changed, and if it fails nothing has. -/
def Performs (act : Acting TransactionError Http.Response) (n : Node)
    (d : Drawing TransactionError β) (answer : β → Node.Answer) : Prop :=
  ∀ entropy, responding act (·.response) { node := n, entropy } =
    (n.answerTo answer (d entropy).1).outcome (d entropy).2

namespace Performs

variable {act : Acting TransactionError Http.Response} {answer : β → Node.Answer}

theorem look_bind {k : Node → Acting TransactionError Http.Response}
    {d : Drawing TransactionError β} (h : Performs (k n) n d answer) :
    Performs (look >>= k) n d answer := by
  intro entropy
  rw [responding_look]
  exact h entropy

/-- Random bytes may be drawn before the effects begin. -/
theorem draws_bind {x : Drawing TransactionError α} {k : α → Acting TransactionError Http.Response}
    {k' : α → Drawing TransactionError β} (h : ∀ a, Performs (k a) n (k' a) answer) :
    Performs (draws x >>= k) n (x >>= k') answer := by
  intro entropy
  cases hx : x entropy with
  | mk result rest =>
    have hact : draws x { node := n, entropy } = (result, { node := n, entropy := rest }) := by
      rw [draws, hx]
    cases result with
    | error e =>
      rw [responding_of_error (bind_of_error hact), bind_of_error hx]
      rfl
    | ok a =>
      rw [responding_congr (bind_of_ok hact), bind_of_ok hx]
      exact h a rest

theorem ofExcept_bind {r : Except TransactionError α}
    {k : α → Acting TransactionError Http.Response} {k' : α → Drawing TransactionError β}
    (h : ∀ a, Performs (k a) n (k' a) answer) :
    Performs (ofExcept r >>= k) n (Drawing.ofExcept r >>= k') answer :=
  draws_bind (x := Drawing.ofExcept r) h

theorem ofExcept_bind_except {r : Except TransactionError α}
    {k : α → Acting TransactionError Http.Response} {k' : α → Except TransactionError β}
    (h : ∀ a, Performs (k a) n (Drawing.ofExcept (k' a)) answer) :
    Performs (ofExcept r >>= k) n (Drawing.ofExcept (r >>= k')) answer := by
  cases r with
  | error e =>
    intro entropy
    rfl
  | ok a => exact h a

/-- Once the stored messages have changed, nothing may fail. -/
theorem changeMessages_bind
    {change : Store EncryptedTransaction → Except StorageError (Store EncryptedTransaction)}
    {k : Unit → Acting TransactionError Http.Response}
    {k' : Store EncryptedTransaction → Except TransactionError β}
    (h : ∀ messages entropy,
      responding (k ()) (·.response) { node := { n with vault.messages := messages }, entropy } =
        (n.answerTo answer (k' messages)).outcome entropy) :
    Performs (changeMessages change >>= k) n
      (Drawing.ofExcept ((change n.vault.messages).mapError .storage >>= k')) answer := by
  intro entropy
  cases hchange : change n.vault.messages with
  | error e =>
    have hact : changeMessages change { node := n, entropy } =
        (.error (.storage e), { node := n, entropy }) := by
      simp only [changeMessages, hchange]
    rw [responding_of_error (bind_of_error hact)]
    rfl
  | ok messages =>
    have hact : changeMessages change { node := n, entropy } =
        (.ok (), { node := { n with vault.messages := messages }, entropy }) := by
      simp only [changeMessages, hchange]
    rw [responding_congr (bind_of_ok hact)]
    exact h messages entropy

end Performs

/-! ## Requests about messages -/

theorem performs_persist {p : Payload} {recipients : List PublicKey} :
    Performs (do
        let response ← persist p recipients
        pure (.json 201 (Api.sendDocument response)))
      n (Drawing.ofExcept (n.vault.persist p recipients)) fun sent => n.replySent (.ok sent) := by
  rw [persist, bind_assoc]
  refine .look_bind ?_
  rw [bind_assoc]
  refine .ofExcept_bind_except fun record => ?_
  rw [bind_assoc]
  -- The payload is saved and then handed over, neither of which is followed by a failure.
  exact .changeMessages_bind fun messages entropy => rfl

theorem performs_send {body : Bytes} :
    Performs (send body) n (n.send body) fun sent => n.replySent (.ok sent) := by
  refine .look_bind ?_
  refine .ofExcept_bind fun parsed => ?_
  refine .ofExcept_bind fun request => ?_
  refine .ofExcept_bind fun prepared => ?_
  refine .draws_bind fun p => ?_
  exact performs_persist

theorem performs_sendSigned {body : Bytes} :
    Performs (sendSigned body) n (n.sendSigned body) fun sent => n.replySent (.ok sent) := by
  refine .look_bind ?_
  refine .ofExcept_bind fun parsed => ?_
  refine .ofExcept_bind fun request => ?_
  refine .ofExcept_bind fun found => ?_
  cases found with
  | none => exact fun _ => rfl
  | some record =>
    refine .ofExcept_bind fun prepared => ?_
    refine .draws_bind fun p => ?_
    exact performs_persist

theorem performs_storeRaw {body : Bytes} :
    Performs (storeRaw body) n (n.storeRaw body) fun stored => n.replyChanged (.ok stored) := by
  refine .look_bind ?_
  refine .ofExcept_bind fun parsed => ?_
  refine .ofExcept_bind fun request => ?_
  simp only [Vault.storeRaw, bind_assoc]
  refine .draws_bind fun raw => ?_
  intro entropy
  cases hsave : n.vault.raws.save (EncryptedRawTransaction.ofRaw raw) with
  | error e =>
    have hact : saveRaw (.ofRaw raw) { node := n, entropy } =
        (.error (.storage e), { node := n, entropy }) := by
      simp only [saveRaw, hsave]
    rw [responding_of_error (bind_of_error hact)]
    rfl
  | ok raws =>
    have hact : saveRaw (.ofRaw raw) { node := n, entropy } =
        (.ok (), { node := { n with vault.raws := raws }, entropy }) := by
      simp only [saveRaw, hsave]
    rw [responding_congr (bind_of_ok hact)]
    rfl

theorem performs_takeIn {p : Payload} :
    Performs (do
        let hash ← takeIn p
        pure (.text 201 hash.toBase64))
      n (Drawing.ofExcept (n.vault.storePayload p)) fun (hash, vault) =>
        n.replyChanged (.ok (.text 201 hash.toBase64, vault)) := by
  rw [takeIn, bind_assoc]
  refine .look_bind ?_
  rw [bind_assoc]
  refine .ofExcept_bind_except fun affected => ?_
  rw [bind_assoc]
  refine .ofExcept_bind_except fun screened => ?_
  cases screened with
  | none => exact fun _ => rfl
  | some left =>
    simp only [bind_assoc]
    refine .ofExcept_bind_except fun stored => ?_
    refine .ofExcept_bind_except fun change => ?_
    exact .changeMessages_bind fun messages entropy => rfl

theorem performs_delete {hash : MessageHash} :
    Performs (delete hash) n (Drawing.ofExcept (n.vault.delete hash)) fun vault =>
      n.replyChanged (.ok (.text 204 "", vault)) :=
  .changeMessages_bind fun _ _ => rfl

theorem performs_draws {d : Drawing TransactionError Http.Response} :
    Performs (draws d) n d fun response => n.replyRead (.ok response) := by
  intro entropy
  rw [responding, draws]
  cases d entropy with
  | mk result rest => cases result <;> rfl

theorem performs_read (result : Node → Except TransactionError Http.Response) :
    Performs (read result) n (Drawing.ofExcept (result n)) fun response =>
      n.replyRead (.ok response) := by
  apply Performs.look_bind
  exact performs_draws (d := Drawing.ofExcept (result n))

/-! ## Routes -/

theorem Performs.responding_eq {act : Acting TransactionError Http.Response}
    {d : Drawing TransactionError β} (reply : Except TransactionError β → Node.Answer)
    (h : Performs act n d fun b => reply (.ok b))
    (hfails : ∀ e, reply (.error e) = n.reply e.response) (entropy : Entropy) :
    responding act (·.response) { node := n, entropy } =
      (reply (d entropy).1).outcome (d entropy).2 := by
  rw [h entropy]
  cases (d entropy).1 with
  | error e => rw [hfails]; rfl
  | ok b => rfl

theorem responding_push {body : Bytes} {entropy : Entropy} :
    responding (push body) (·.response) { node := n, entropy } = (n.push body).outcome entropy := by
  rw [push, responding_look, Node.push]
  cases n.vault.codec.decode body with
  | error e => rfl
  | ok p =>
    exact performs_takeIn.responding_eq
      (fun (taken : Except TransactionError (MessageHash × Vault)) => n.replyChanged do
        let (hash, vault) ← taken
        .ok (.text 201 hash.toBase64, vault))
      (fun _ => rfl) entropy

/-- An announcement is taken over before the directory is written. -/
theorem responding_announce {body : Bytes} {replies : Discovery → List (Listing × Reply)}
    {moment : Int64} {announced : Directory} {d : Discovery} {entropy rest : Entropy}
    (hannounced : Node.readDirectory body = .ok announced)
    (hstart : n.startDiscovery announced entropy = (d, rest)) :
    responding (announce body replies moment) (·.response) { node := n, entropy } =
      (n.conclude d (replies d) moment).outcome rest := by
  have hdraws : draws (ExceptT.lift (n.startDiscovery announced) : Drawing DiscoveryError _)
      { node := n, entropy } = (.ok d, { node := n, entropy := rest }) := by
    simp only [draws, ExceptT.lift, ExceptT.mk, Functor.map, StateT.map, hstart]
    rfl
  rw [announce, responding_look, hannounced, responding_ofExcept_ok,
    responding_congr (bind_of_ok hdraws)]
  cases hfinish : d.finish n.registry (replies d) moment with
  | error e =>
    have hact : takeOver d (replies d) moment { node := n, entropy := rest } =
        (.error e, { node := n, entropy := rest }) := by
      simp only [takeOver, hfinish]
    rw [responding_of_error (bind_of_error hact), Node.conclude_of_finish_error hfinish]
    rfl
  | ok registry =>
    have hact : takeOver d (replies d) moment { node := n, entropy := rest } =
        (.ok (), { node := { n with registry }, entropy := rest }) := by
      simp only [takeOver, hfinish]
    rw [responding_congr (bind_of_ok hact), responding_look, Node.conclude_of_finish_ok hfinish]
    cases ({ n with registry } : Node).directoryBytes <;> rfl

theorem serveRoute_eq {r : Http.Request} {replies : Discovery → List (Listing × Reply)}
    {moment : Int64} {entropy : Entropy} (route : Route) :
    serveRoute r replies moment route { node := n, entropy } =
      (n.settle (n.perform route r entropy).1 replies moment).outcome
        (n.perform route r entropy).2 := by
  cases route with
  | upcheck => rfl
  | push => exact responding_push
  | directory => rfl
  | announcement =>
    rw [serveRoute, Node.perform]
    cases hannounced : Node.readDirectory r.body with
    | error e =>
      rw [announce, responding_look, hannounced, responding_ofExcept_error]
      rfl
    | ok announced => exact responding_announce hannounced rfl
  | challenge => rfl
  | send => exact performs_send.responding_eq n.replySent (fun _ => rfl) entropy
  | sendSigned => exact performs_sendSigned.responding_eq n.replySent (fun _ => rfl) entropy
  | storeRaw => exact performs_storeRaw.responding_eq n.replyChanged (fun _ => rfl) entropy
  | createPayload =>
    exact Performs.responding_eq n.replyRead (.look_bind performs_draws) (fun _ => rfl) entropy
  | openPayload => exact (performs_read _).responding_eq n.replyRead (fun _ => rfl) entropy
  | delete hash =>
    exact performs_delete.responding_eq
      (fun deleted => n.replyChanged do
        let vault ← deleted
        .ok (.text 204 "", vault))
      (fun _ => rfl) entropy
  | isSender hash => exact (performs_read _).responding_eq n.replyRead (fun _ => rfl) entropy
  | participants hash => exact (performs_read _).responding_eq n.replyRead (fun _ => rfl) entropy
  | mandatory hash => exact (performs_read _).responding_eq n.replyRead (fun _ => rfl) entropy
  | receive request => exact (performs_read _).responding_eq n.replyRead (fun _ => rfl) entropy

/-- Carried out effect by effect, a request comes to the same as when it is handled. -/
theorem serve_eq (r : Http.Request) (replies : Discovery → List (Listing × Reply))
    (moment : Int64) (entropy : Entropy) :
    serve r replies moment { node := n, entropy } =
      (n.settle (n.handle r entropy).1 replies moment).outcome (n.handle r entropy).2 := by
  rw [serve, Node.handle]
  cases Route.ofRequest r with
  | error e => rfl
  | ok route => exact serveRoute_eq route

end Acting

end SealedExchange
