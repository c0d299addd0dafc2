import SealedExchange.Api.Body
import SealedExchange.Exchange.Delivery
import SealedExchange.Node.Route
import SealedExchange.Peer.Discovery

/-! # Nodes

A node is a vault with a registry of other nodes. `Node.handle` answers a request. Where that takes
challenges to other nodes, the answer is a `Discovery` that is under way, and `Node.conclude`
answers when the replies are there. A payload to be pushed to other nodes is part of the answer;
pushing it is left to the surroundings and cannot change the answer.
-/

namespace SealedExchange

/-- The status of a response to an announcement or a challenge that is refused. -/
def DiscoveryError.status : DiscoveryError → Nat
  | securityViolation _ | enclave _ => 403
  | notAChallenge | noManagedRecipient | malformed _ | codec _ => 400
  | transport _ => 500

/-- The response to an announcement or a challenge that is refused. -/
def DiscoveryError.response (e : DiscoveryError) : Http.Response := .text e.status e.message

/-- A vault and what its owner knows about the network. -/
structure Node where
  vault : Vault
  registry : Registry

namespace Node

/-- A node after a request, its response, and what is to be pushed. -/
structure Answer where
  response : Http.Response
  node : Node
  publication : Option Publication := none

/-- What a request leads to. -/
inductive Handling
  | answered (answer : Answer)
  | discovering (discovery : Discovery)

/-- The node of a vault that knows its own keys and some other nodes. -/
def new (vault : Vault) (url : String) (bootstrap : List String) : Node :=
  { vault, registry := .new url (.ofList vault.enclave.managedKeys) bootstrap }

/-- Answers without a change of the node. -/
def reply (n : Node) (response : Http.Response) : Answer := { response, node := n }

/-- Answers a request that reads. -/
def replyRead (n : Node) (result : Except TransactionError Http.Response) : Answer :=
  match result with
  | .ok response => n.reply response
  | .error e => n.reply e.response

/-- Answers a request to send a message. -/
def replySent (n : Node) (result : Except TransactionError Sent) : Answer :=
  match result with
  | .ok sent =>
    { response := .json 201 (Api.sendDocument sent.response)
      node := { n with vault := sent.vault }
      publication := some sent.publication }
  | .error e => n.reply e.response

/-- Answers a request that changes the vault. -/
def replyChanged (n : Node) (result : Except TransactionError (Http.Response × Vault)) : Answer :=
  match result with
  | .ok (response, vault) => { response, node := { n with vault } }
  | .error e => n.reply e.response

/-- Sends the message of a request body. -/
def send (n : Node) (body : Bytes) : Drawing TransactionError Sent := do
  let parsed ← Drawing.ofExcept (Api.readBody Api.SendBody.reader body)
  let request ← Drawing.ofExcept (parsed.request n.vault.enclave.defaultKey)
  n.vault.send request

/-- Sends the stored message that a request body names. -/
def sendSigned (n : Node) (body : Bytes) : Drawing TransactionError Sent := do
  let parsed ← Drawing.ofExcept (Api.readBody Api.SendSignedBody.reader body)
  let request ← Drawing.ofExcept parsed.request
  n.vault.sendSigned request

/-- Stores the message of a request body. -/
def storeRaw (n : Node) (body : Bytes) : Drawing TransactionError (Http.Response × Vault) := do
  let parsed ← Drawing.ofExcept (Api.readBody Api.StoreRawBody.reader body)
  let request ← Drawing.ofExcept parsed.request
  let (hash, vault) ← n.vault.storeRaw request.message request.sender
  pure (.json 200 (Api.storeRawDocument hash), vault)

/-- Makes the payload that a request to send would store. -/
def createPayload (n : Node) (body : Bytes) : Drawing TransactionError Http.Response := do
  let parsed ← Drawing.ofExcept (Api.readBody Api.SendBody.reader body)
  let request ← Drawing.ofExcept (parsed.request n.vault.enclave.defaultKey)
  let p ← n.vault.create request
  let encoded ← Drawing.ofExcept ((Codec.json.encode p).mapError .codec)
  pure { status := 200, contentType := .json, body := encoded }

/-- Opens the payload of a request body, with the key that the query names if it names one. -/
def openPayload (n : Node) (body : Bytes) (query : String) :
    Except TransactionError Http.Response := do
  let p ← (Codec.json.decode body).mapError .codec
  let recipient ← Api.queryKey query "to"
  let opened ← n.vault.enclave.openPayload n.vault.messages p recipient
  .ok (.json 200 (Api.openedDocument p opened))

/-- Takes in a payload that another node delivers. -/
def push (n : Node) (body : Bytes) : Answer :=
  match n.vault.codec.decode body with
  | .error e => n.reply (.text 400 e.message)
  | .ok p => n.replyChanged do
      let (hash, vault) ← n.vault.storePayload p
      .ok (.text 201 hash.toBase64, vault)

/-- Answers a challenge. -/
def answerChallenge (n : Node) (body : Bytes) : Except DiscoveryError Bytes :=
  Challenge.answer n.vault.enclave n.vault.codec body

/-- The response to a challenge. -/
def challengeResponse (n : Node) (body : Bytes) : Http.Response :=
  match n.answerChallenge body with
  | .ok answer => .bytes 200 answer
  | .error e => e.response

/-- Begins to check an announcement. -/
def startDiscovery (n : Node) (announced : Directory) : StateM Entropy Discovery :=
  Discovery.start n.vault.enclave n.vault.codec n.registry announced

/-- Takes over what an announcement has proven. -/
def finishDiscovery (n : Node) (d : Discovery) (replies : List (Listing × Reply))
    (moment : Int64) : Except DiscoveryError Node :=
  (d.finish n.registry replies moment).map fun registry => { n with registry }

/-- The directory of some bytes that came from another node. -/
def readDirectory (body : Bytes) : Except DiscoveryError Directory :=
  (Directory.decode body).mapError fun e => .malformed e.message

/-- The node's directory as other nodes read it. -/
def directoryBytes (n : Node) : Except DiscoveryError Bytes :=
  n.registry.directory.encode.mapError fun e => .malformed e.message

/-- Answers an announcement when the replies to its challenges are there. -/
def conclude (n : Node) (d : Discovery) (replies : List (Listing × Reply)) (moment : Int64) :
    Answer :=
  match n.finishDiscovery d replies moment with
  | .error e => n.reply e.response
  | .ok n =>
    match n.directoryBytes with
    | .ok bytes => n.reply (.bytes 200 bytes)
    | .error e => n.reply e.response

/-- Does what a route asks for. -/
def perform (n : Node) (route : Route) (r : Http.Request) : StateM Entropy Handling := do
  match route with
  | .upcheck =>
    pure (.answered (n.reply
      (if n.vault.isUp then .text 200 "I'm up!" else .text 503 "Storage unavailable")))
  | .push => pure (.answered (n.push r.body))
  | .directory => pure (.answered (n.reply (.json 200 n.registry.directory.document)))
  | .announcement =>
    match readDirectory r.body with
    | .ok announced => do
      let d ← n.startDiscovery announced
      pure (.discovering d)
    | .error e => pure (.answered (n.reply e.response))
  | .challenge => pure (.answered (n.reply (n.challengeResponse r.body)))
  | .send => do
    let result ← (n.send r.body).run
    pure (.answered (n.replySent result))
  | .sendSigned => do
    let result ← (n.sendSigned r.body).run
    pure (.answered (n.replySent result))
  | .storeRaw => do
    let result ← (n.storeRaw r.body).run
    pure (.answered (n.replyChanged result))
  | .createPayload => do
    let result ← (n.createPayload r.body).run
    pure (.answered (n.replyRead result))
  | .openPayload => pure (.answered (n.replyRead (n.openPayload r.body r.query)))
  | .delete hash =>
    pure (.answered (n.replyChanged do
      let vault ← n.vault.delete hash
      .ok (.text 204 "", vault)))
  | .isSender hash =>
    pure (.answered (n.replyRead do
      let sent ← n.vault.isSender hash
      .ok (.text 200 (if sent then "true" else "false"))))
  | .participants hash =>
    pure (.answered (n.replyRead do
      let keys ← n.vault.participants hash
      .ok (.text 200 (Api.keyList keys))))
  | .mandatory hash =>
    pure (.answered (n.replyRead do
      let keys ← n.vault.mandatoryRecipients hash
      .ok (.text 200 (Api.keyList keys.elems))))
  | .receive request =>
    pure (.answered (n.replyRead do
      let received ← n.vault.receive request
      .ok (.json 200 (Api.receiveDocument received))))

/-- Handles a request. -/
def handle (n : Node) (r : Http.Request) : StateM Entropy Handling :=
  match Route.ofRequest r with
  | .ok route => n.perform route r
  | .error e => pure (.answered (n.reply e.response))

/-- Answers a request if the replies to challenges are known in advance. -/
def respond (n : Node) (r : Http.Request) (ask : Listing → Bytes → Reply) (moment : Int64) :
    StateM Entropy Answer := do
  match ← n.handle r with
  | .answered answer => pure answer
  | .discovering d => pure (n.conclude d (d.posts.map fun (l, body) => (l, ask l body)) moment)

/-- The copy of a payload that a recipient gets, with the url that serves the recipient. -/
def pushTo (n : Node) (p : Payload) (recipient : PublicKey) : Option (String × Bytes) := do
  let copy ← p.forRecipient recipient
  let url ← n.registry.directory.urlOf? recipient
  let body ← (n.vault.codec.encode copy).toOption
  some (url, body)

/-- The posts that carry a payload to its recipients. Recipients without a box or without a known
url are left out. -/
def pushes (n : Node) (publication : Publication) : List (String × Bytes) :=
  publication.recipients.filterMap (n.pushTo publication.payload)

end Node

end SealedExchange
