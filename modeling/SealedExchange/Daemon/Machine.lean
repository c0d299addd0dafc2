import SealedExchange.Daemon.System
import SealedExchange.Http.Stream
import SealedExchange.Node.Mesh

/-! # Several daemons on one machine

Daemons that run on one machine reach each other at the sockets that they listen at. One that has
started announces itself to the nodes that it was told about.
-/

namespace SealedExchange

/-- The daemons that run on a machine. -/
structure Machine where
  mesh : Mesh
  /-- The socket of each member of the mesh. -/
  sockets : List Http.Socket := []

namespace Machine

/-- Where a post leads if daemons listen at some sockets. -/
def locate (sockets : List Http.Socket) (base path : String) : Destination :=
  match Http.Endpoint.ofUrl? (Url.join base path) with
  | none => .outside .unreachable
  | some e =>
    match sockets.findIdx? (·.accepts e) with
    | some index => if e.secure then .outside .unreachable else .member index e.target
    | none => .outside .unreachable

/-- A machine on which no daemon runs. -/
def new (entropy : Entropy) (moment : Int64) : Machine :=
  { mesh := { members := [], locate := locate [], entropy, moment } }

/-- Does something in the mesh. -/
def inMesh (act : StateM Mesh α) : StateM Machine α := fun m =>
  let (a, mesh) := act m.mesh
  (a, { m with mesh })

/-- The system that a daemon with a key file finds on a machine. -/
def system (home : String) (environment : String → Option String) (keyFile : Option Bytes) :
    System (StateM Machine) where
  home
  environment name := pure (environment name)
  read _ :=
    pure (match keyFile with
      | some bytes => .contents bytes
      | none => .absent)
  write _ _ := pure (.ok ())
  replace _ _ := pure (.ok ())
  openDatabase _ := pure (.ok ())
  listen address := fun m =>
    (match Http.Socket.ofAddress? address with
      | none => .error "invalid address"
      | some socket =>
        if m.sockets.any socket.clashes then .error "address in use" else .ok (),
      m)
  draw act := inMesh (Mesh.drawing act)

/-- Adds a daemon that listens at a socket. -/
def add (m : Machine) (node : Node) (socket : Http.Socket) : Machine :=
  let sockets := m.sockets ++ [socket]
  { sockets
    mesh := { m.mesh with members := m.mesh.members ++ [{ node }], locate := locate sockets } }

/-- Starts a daemon, which announces itself if it comes up. -/
def boot (sys : System (StateM Machine)) (c : Config) :
    StateM Machine (Except AppError Unit) := do
  let (result, _) ← (sys.start c).run.run []
  match result with
  | .error e => pure (.error e)
  | .ok node => do
    let m ← get
    match Http.Socket.ofAddress? c.node.listenAddress with
    | none => pure (.ok ())
    | some socket => do
      set (m.add node socket)
      let _ ← inMesh (Mesh.poll (Mesh.post Mesh.levels) m.sockets.length)
      pure (.ok ())

end Machine

end SealedExchange
