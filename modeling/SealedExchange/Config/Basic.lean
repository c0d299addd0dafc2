import SealedExchange.Enclave.Basic
import SealedExchange.Store.Basic

/-! # Configuration

What a node is told when it starts. Everything has a default; `Config.validate` states which
configurations make sense.
-/

namespace SealedExchange

/-- What goes wrong when a node is configured and started. -/
inductive AppError
  | config (reason : String)
  /-- The text of a configuration cannot be read. -/
  | unreadableConfig (path : String)
  | storage (reason : StorageError)
  | enclave (reason : EnclaveError)
  | network (reason : String)
  | io (reason : String)
deriving DecidableEq, Repr

/-- The wording of an error. -/
def AppError.message : AppError → String
  | config reason => "Configuration error: " ++ reason
  | unreadableConfig path => "Configuration error: " ++ path ++ ": not a valid configuration"
  | storage reason => "Storage error: " ++ reason.message
  | enclave reason => "Enclave error: " ++ reason.message
  | network reason => "Network error: " ++ reason
  | io reason => "IO error: " ++ reason

/-- How a node is reached. -/
structure NodeConfig where
  /-- The url that other nodes reach the node at. -/
  url : String
  listenAddress : String
  /-- The seconds that a client gets to deliver a request. -/
  readTimeout : Nat := 10
deriving DecidableEq, Repr

/-- Where the keys of a node come from. -/
structure EnclaveConfig where
  keyFile : String
  /-- The environment variable with the password of the key file. -/
  passwordVariable : Option String := none
  /-- Keys that get a copy of every message in standard mode, in base64. -/
  forwardingKeys : List String := []
deriving DecidableEq, Repr

/-- Where a node keeps its records. -/
structure StorageConfig where
  backend : String := "sled"
  dataDirectory : String := ""
  codec : Codec := .bincode
deriving DecidableEq, Repr

/-- How a node deals with other nodes. -/
structure PeersConfig where
  /-- The nodes that are known from the start. -/
  bootstrap : List String := []
  /-- The seconds that another node gets to answer a challenge. -/
  validationTimeout : Nat := 5
  /-- The number of challenges that are under way at the same time. -/
  concurrentValidations : Nat := 16
  /-- The seconds between two rounds of announcements. -/
  pollInterval : Nat := 30
deriving DecidableEq, Repr

/-- What a node reports about its work. -/
structure LoggingConfig where
  level : String := "info"
  format : String := "compact"
deriving DecidableEq, Repr

/-- The configuration of a node. -/
structure Config where
  node : NodeConfig
  enclave : EnclaveConfig
  storage : StorageConfig := {}
  peers : PeersConfig := {}
  logging : LoggingConfig := {}
deriving DecidableEq, Repr

/-- The forwarding keys. -/
def EnclaveConfig.forwarding (c : EnclaveConfig) : Except AppError (SortedSet PublicKey) := do
  let keys ← c.forwardingKeys.mapM fun text =>
    (PublicKey.ofBase64 text).mapError fun e => AppError.config e.message
  .ok (.ofList keys)

/-- The password of the key file, given a way to look variables of the environment up. -/
def EnclaveConfig.password [Monad m] (c : EnclaveConfig)
    (environment : String → m (Option String)) : m (Option String) :=
  match c.passwordVariable with
  | some name => environment name
  | none => pure none

/-- The seconds between two rounds of announcements, which are at least one. -/
def PeersConfig.interval (c : PeersConfig) : Nat := max c.pollInterval 1

namespace Config

/-- The name of the directory that a node keeps its files in, below a home directory. -/
def dataDirectory (home : String) : String :=
  (if home = "" ∨ home.toList.getLast? = some '/' then home else home ++ "/") ++ ".privtxd"

/-- The directory of the records, unless another one is given. -/
def defaultDatabase (home : String) : String := dataDirectory home ++ "/db"

/-- The file that a configuration is read from, unless another one is given. -/
def defaultPath (home : String) : String := dataDirectory home ++ "/privtxd.toml"

/-- The configuration of a new node. -/
def default (home : String) : Config where
  node := { url := "http://127.0.0.1:9001", listenAddress := "0.0.0.0:9001" }
  enclave := { keyFile := dataDirectory home ++ "/keys.json" }
  storage := { dataDirectory := defaultDatabase home }

/-- The kinds of store. -/
def backends : List String := ["sled", "memory"]

/-- The forms of reports. -/
def logFormats : List String := ["compact", "json"]

/-- The error of a kind of store that does not exist. -/
def unknownBackend (name : String) : AppError :=
  .config ("unknown storage backend '" ++ name ++ "'")

/-- Checks that a configuration makes sense. -/
def validate (c : Config) : Except AppError Unit :=
  if Text.trim c.node.url = "" then .error (.config "node.url must not be empty")
  else if c.node.readTimeout = 0 then .error (.config "node.read_timeout_secs must be positive")
  else if c.storage.backend ∉ backends then .error (unknownBackend c.storage.backend)
  else if c.logging.format ∉ logFormats then
    .error (.config ("unknown log format '" ++ c.logging.format ++ "'"))
  else c.enclave.forwarding.map fun _ => ()

/-- A configuration that was read: the directory of its records is filled in, and it must make
sense. -/
def completed (home : String) (c : Config) : Except AppError Config := do
  let c : Config :=
    if c.storage.dataDirectory = "" then
      { c with storage := { c.storage with dataDirectory := defaultDatabase home } }
    else c
  c.validate
  .ok c

end Config

end SealedExchange
