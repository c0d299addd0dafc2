import SealedExchange.Http.Stream
import SealedExchange.Node.Basic

/-! # Nodes that reach each other

A mesh is a list of nodes together with a way to find out where a post to a url leads: to a node of
the mesh, or to an endpoint outside whose behaviour is fixed. A node that answers a post may post
in turn, but only challenges and pushes, whose answers need no further posts; the depth of posts is
bounded by a number of levels, and a post at level zero reaches nobody.
-/

namespace SealedExchange

/-- How an endpoint outside the mesh behaves. -/
inductive Behaviour
  | replies (body : Bytes)
  | refuses (status : Nat)
  | unreachable
  | timesOut
  /-- No answer ever comes, so that it is the sender who gives up. -/
  | hangs
deriving DecidableEq

/-- Where a post leads. -/
inductive Destination
  /-- A node of the mesh, by its place, and the target of the request. -/
  | member (index : Nat) (target : String)
  | outside (behaviour : Behaviour)

/-- A node of a mesh. -/
structure Member where
  node : Node
  /-- Whether payloads are pushed to their recipients or only put on record. -/
  publishes : Bool := true

/-- What is on record of a post. -/
structure Posted where
  url : String
  reply : Reply

/-- Nodes that reach each other. -/
structure Mesh where
  members : List Member
  /-- Where a post to a base url and a path leads. -/
  locate : (base path : String) → Destination
  entropy : Entropy
  /-- The moment at which everything happens. -/
  moment : Int64
  /-- The posts that got an answer or failed, latest first. -/
  posts : List Posted := []
  /-- The payloads that were put on record, latest first. -/
  published : List Publication := []

namespace Mesh

/-- Posts a body to a path below a url. -/
abbrev Post := (base path : String) → (body : Bytes) → StateM Mesh Reply

/-- The number of levels that posts need: an announcement, its challenges, and one to spare. -/
def levels : Nat := 3

/-- What a reply looks like to the sender of a post. -/
def replyOf (url base : String) : Behaviour → Reply
  | .replies body => .ok body
  | .refuses status => .error (.status url status)
  | .unreachable => .error (.request url "connection refused")
  | .timesOut => .error (.timeout url)
  | .hangs => .error (.timeout base)

/-- What the response of a node looks like to the sender of a post. -/
def replyOfResponse (url : String) (r : Http.Response) : Reply :=
  if 200 ≤ r.status ∧ r.status < 300 then .ok r.body else .error (.status url r.status)

/-- Puts a post on record. -/
def record (url : String) (reply : Reply) : StateM Mesh Unit :=
  modify fun m => { m with posts := { url, reply } :: m.posts }

/-- The member at a place. -/
def member? (m : Mesh) (index : Nat) : Option Member := m.members[index]?

/-- The node at a place, or a given one if the place is empty. -/
def nodeAt (m : Mesh) (index : Nat) (default : Node) : Node :=
  ((m.member? index).map (·.node)).getD default

/-- Puts a node in the place of another one. -/
def setNode (m : Mesh) (index : Nat) (node : Node) : Mesh :=
  { m with members := m.members.modify index fun member => { member with node } }

/-- Changes the node at a place. -/
def putNode (index : Nat) (node : Node) : StateM Mesh Unit := modify (·.setNode index node)

/-- Draws from the random bytes of the mesh. -/
def drawing (act : StateM Entropy α) : StateM Mesh α := fun m =>
  let (a, entropy) := act m.entropy
  (a, { m with entropy })

/-- Posts the challenges of a discovery one after the other. -/
def postChallenges (post : Post) :
    List (Listing × Bytes) → StateM Mesh (List (Listing × Reply))
  | [] => pure []
  | (l, body) :: rest => do
    let reply ← post l.url challengePath body
    let replies ← postChallenges post rest
    pure ((l, reply) :: replies)

/-- Pushes bodies to urls one after the other; what comes back does not matter. -/
def postPushes (post : Post) : List (String × Bytes) → StateM Mesh Unit
  | [] => pure ()
  | (url, body) :: rest => do
    let _ ← post url "push" body
    postPushes post rest

/-- Publishes a payload that a member has stored. -/
def publish (post : Post) (index : Nat) (publication : Publication) : StateM Mesh Unit := do
  match (← get).member? index with
  | none => pure ()
  | some member =>
    if member.publishes then postPushes post (member.node.pushes publication)
    else modify fun m => { m with published := publication :: m.published }

/-- Lets a member check an announcement and take over what is proven. -/
def discover (post : Post) (index : Nat) (announced : Directory) :
    StateM Mesh (Except DiscoveryError Directory) := do
  match (← get).member? index with
  | none => pure (.error .noManagedRecipient)
  | some member => do
    let d ← drawing (member.node.startDiscovery announced)
    let replies ← postChallenges post d.posts
    let m ← get
    match (m.nodeAt index member.node).finishDiscovery d replies m.moment with
    | .ok node => do
      putNode index node
      pure (.ok node.registry.directory)
    | .error e => pure (.error e)

/-- Lets a member answer a request. -/
def request (post : Post) (index : Nat) (r : Http.Request) : StateM Mesh Http.Response := do
  match (← get).member? index with
  | none => pure .notFound
  | some member => do
    let answer ← match ← drawing (member.node.handle r) with
      | .answered answer => pure answer
      | .discovering d => do
        let replies ← postChallenges post d.posts
        let m ← get
        pure ((m.nodeAt index member.node).conclude d replies m.moment)
    putNode index answer.node
    match answer.publication with
    | some publication => publish post index publication
    | none => pure ()
    pure answer.response

/-- Lets a member answer what a connection delivers. -/
def serve (post : Post) (index : Nat) (stream : Http.Stream) : StateM Mesh Http.Response := do
  match stream.request.1 with
  | .error refusal => pure refusal.response
  | .ok r => request post index r

/-- Posts a body. -/
def post : (level : Nat) → Post
  | 0, base, path, _ => pure (replyOf (Url.join base path) base .unreachable)
  | level + 1, base, path, body => do
    let url := Url.join base path
    match (← get).locate base path with
    -- The sender gives up by itself, so nothing is put on record.
    | .outside .hangs => pure (replyOf url base .hangs)
    | .outside behaviour => do
      let reply := replyOf url base behaviour
      record url reply
      pure reply
    | .member index target => do
      let (path, query) := Http.splitTarget target
      let response ← request (post level) index { method := "POST", path, query, body }
      let reply := replyOfResponse url response
      record url reply
      pure reply

/-- Announces a member to another node and takes over what the other node answers. -/
def exchange (post : Post) (index : Nat) (url : String) (ours : Bytes) :
    StateM Mesh (Except DiscoveryError Directory) := do
  match ← post url announcementPath ours with
  | .error e => pure (.error (.transport e))
  | .ok body =>
    match Node.readDirectory body with
    | .error e => pure (.error e)
    | .ok theirs => discover post index theirs

/-- Announces a member to nodes one after the other: the number of those whose answer was taken
over. -/
def exchangeAll (post : Post) (index : Nat) (ours : Bytes) : List String → StateM Mesh Nat
  | [] => pure 0
  | url :: rest => do
    let result ← exchange post index url ours
    let count ← exchangeAll post index ours rest
    pure (if result.isOk then count + 1 else count)

/-- Announces a member to every node it knows. -/
def poll (post : Post) (index : Nat) : StateM Mesh Nat := do
  match (← get).member? index with
  | none => pure 0
  | some member =>
    match member.node.directoryBytes with
    | .error _ => pure 0
    | .ok ours => exchangeAll post index ours member.node.registry.directory.peers

end Mesh

end SealedExchange
