import SealedExchange.Config.Document
import SealedExchange.Daemon.Arguments
import SealedExchange.Daemon.Report.Filter
import SealedExchange.Enclave.KeyFile
import SealedExchange.Http.Socket
import SealedExchange.Node.Basic

/-! # Starting the daemon

The daemon reads its configuration, opens or makes its keys, opens its stores and starts to listen,
in this order, and gives up at the first step that fails. What it needs of the system that it runs
on is collected in a `System`, so that it starts the same way on a real one and on a made-up one.
-/

namespace SealedExchange

/-- What is found under a path. -/
inductive FileState
  | absent
  | contents (bytes : Bytes)
  /-- Something is there but cannot be read. -/
  | unreadable (reason : String)

/-- The system that a daemon runs on. What fails comes with a reason. -/
structure System (m : Type → Type) where
  home : String
  environment : (name : String) → m (Option String)
  read : (path : String) → m FileState
  /-- Writes a file, and makes the directories that it is in. -/
  write : (path : String) → Bytes → m (Except String Unit)
  /-- Does so through a draft beside the file, so that nobody ever finds one that is cut short. -/
  replace : (path : String) → Bytes → m (Except String Unit)
  openDatabase : (path : String) → m (Except String Unit)
  listen : (address : String) → m (Except String Unit)
  draw : {α : Type} → StateM Entropy α → m α

/-- A start that is under way: it may fail, and it makes reports. -/
abbrev Starting (m : Type → Type) := ExceptT AppError (StateT (List Report) m)

namespace System

variable {m : Type → Type} [Monad m]

/-- Does something on the system. -/
def perform (act : m α) : Starting m α := ExceptT.lift (StateT.lift act)

/-- Does something on the system that may fail. -/
def attempt (onFailure : String → AppError) (act : m (Except String α)) : Starting m α := do
  match ← perform act with
  | .ok a => pure a
  | .error reason => throw (onFailure reason)

/-- Makes a report. -/
def report (r : Report) : Starting m Unit := modify fun reports => reports ++ [r]

/-- The contents of a file, if it is there. -/
def contents? (sys : System m) (path : String) : Starting m (Option Bytes) := do
  match ← perform (sys.read path) with
  | .absent => pure none
  | .contents bytes => pure (some bytes)
  | .unreadable reason => throw (.io reason)

/-- Opens the key file of a configuration, or makes one. -/
def openEnclave (sys : System m) (c : Config) : Starting m Enclave := do
  let password ← perform (c.enclave.password sys.environment)
  let contents ← sys.contents? c.enclave.keyFile
  let result ← perform (sys.draw (KeyFile.loadOrGenerate .standard password contents).run)
  match result with
  | .error e => throw (.enclave (.keyFile e.message))
  | .ok (enclave, none) => pure enclave
  | .ok (enclave, some bytes) => do
    attempt AppError.io (sys.replace c.enclave.keyFile bytes)
    report .keyMade
    pure enclave

/-- Opens the stores of a configuration, which are empty. -/
def openStores (sys : System m) (c : Config) : Starting m Unit := do
  match c.storage.backend with
  | "memory" => report .volatileStores
  | "sled" => do
    let path := c.storage.dataDirectory
    attempt (fun reason => AppError.storage (.databaseOpen path reason)) (sys.openDatabase path)
    report .databaseScanned
    report .progress
  | other => throw (Config.unknownBackend other)

/-- Tests whether a node asks some other node what it knows. -/
def asksOthers (node : Node) : Bool :=
  node.registry.directory.peers.any fun url =>
    (Http.Endpoint.ofUrl? (Url.join url announcementPath)).isSome

/-- Starts a node. -/
def start (sys : System m) (c : Config) : Starting m Node := do
  let enclave ← sys.openEnclave c
  let forwarding ← ExceptT.mk (pure c.enclave.forwarding)
  report .progress
  sys.openStores c
  let vault : Vault :=
    { enclave := { enclave with forwarding }
      messages := {}
      raws := {}
      codec := c.storage.codec }
  attempt AppError.io (sys.listen c.node.listenAddress)
  let node := Node.new vault c.node.url c.peers.bootstrap
  report .listening
  report .pollerStarted
  report .progress
  if asksOthers node then report .connecting
  report .pollerPaused
  pure node

/-- Reads a configuration, or writes a new one. -/
def loadConfig (sys : System m) (path : String) : Starting m Config := do
  let contents ← sys.contents? path
  let text ← match contents with
    | none => pure none
    | some bytes =>
      match Text.Utf8.decode bytes with
      | .ok text => pure (some text)
      | .error e => throw (.io e.message)
  let (c, written) ← ExceptT.mk (pure (Config.loadOrCreate sys.home path text))
  match written with
  | none => pure c
  | some text => do
    attempt AppError.io (sys.write path (Text.Utf8.encode text))
    pure c

end System

/-- What the daemon complains about before it reports anything. -/
inductive Complaint
  | generating (reason : AppError)
  | loading (reason : AppError)

namespace Complaint

/-- What went wrong. -/
def reason : Complaint → AppError
  | generating e => e
  | loading e => e

/-- The line on standard error. -/
def line : Complaint → String
  | generating e => "❌ Failed to generate config: " ++ e.message
  | loading e => "❌ Failed to load config: " ++ e.message

end Complaint

/-- What has become of a launch. -/
structure Launch where
  exitCode : Nat := 0
  /-- The node, if it is running, and its configuration. -/
  running : Option (Config × Node) := none
  /-- The line on standard output, if there is one before any report. -/
  notice : Option String := none
  complaint : Option Complaint := none
  /-- What went wrong later on. -/
  failure : Option AppError := none
  reports : List Report := []
  /-- Which reports are heard. -/
  filter : ReportFilter := ⟨[]⟩
  /-- Whether reports are written as documents. -/
  asDocuments : Bool := false

namespace Launch

variable {m : Type → Type} [Monad m]

/-- The filter on reports that the environment asks for if it does so properly, or else the one
that the configuration asks for. -/
def filterOf (sys : System m) (a : Arguments) (c : Config) : m ReportFilter := do
  let wanted ← sys.environment "RUST_LOG"
  pure ((wanted.bind ReportFilter.parse?).getD
    (ReportFilter.parseLossy (if a.verbose then "trace" else c.logging.level)))

/-- Writes a new configuration. -/
def generate (sys : System m) (path : String) : m Launch := do
  match ← sys.write path (Text.Utf8.encode (Config.default sys.home).render) with
  | .ok () => pure { notice := some ("✅ Generated default config at: " ++ path) }
  | .error reason => pure { exitCode := 1, complaint := some (.generating (.io reason)) }

/-- Starts a node with a configuration. -/
def start (sys : System m) (a : Arguments) (c : Config) : m Launch := do
  let (result, reports) ← (sys.start c).run.run [.progress]
  let filter ← filterOf sys a c
  let asDocuments : Bool := c.logging.format = "json"
  match result with
  | .ok node => pure { running := some (c, node), reports, filter, asDocuments }
  | .error e =>
    pure { exitCode := 1, failure := some e, reports := reports ++ [.failure], filter, asDocuments }

/-- The reports on the start that are heard. -/
def heard (l : Launch) : List Report := l.reports.filter l.filter.hears

/-- The reports that are heard when the daemon is told to stop. -/
def heardAtEnd (l : Launch) : List Report :=
  if l.running.isSome then
    [.stopping, .listening, .pollerPaused, .stopping].filter l.filter.hears
  else []

/-- Does what the arguments ask for. -/
def run (sys : System m) (a : Arguments) : m Launch := do
  let path := a.config.getD (Config.defaultPath sys.home)
  if a.generateConfig then generate sys path
  else
    let (result, _) ← (sys.loadConfig path).run.run []
    match result with
    | .error e => pure { exitCode := 1, complaint := some (.loading e) }
    | .ok c => start sys a c

end Launch

end SealedExchange
