import SealedExchange.Config.Basic
import SealedExchange.Toml.Printer
import SealedExchange.Toml.Reader

/-! # Configurations as TOML

A configuration has one table for each of its parts. A part may also be an array of its fields in
order; names and fields beyond those that are known are passed over.
-/

namespace SealedExchange

open Toml (Value Entries)

namespace ConfigDocument

/-- The fields of a part, by name or by place. -/
inductive Fields
  | named (entries : Entries)
  | placed (values : List Value)

/-- The fields of a value. A date has none that anybody knows. -/
def fields? : Value → Option Fields
  | .table _ entries => some (.named entries)
  | .array values => some (.placed values)
  | .tables items => some (.placed (items.map (.table .written)))
  | .datetime _ => some (.named [])
  | _ => none

/-- The value of a field. -/
def Fields.get? (fs : Fields) (place : Nat) (name : String) : Option Value :=
  match fs with
  | named entries => entries.lookup name
  | placed values => values[place]?

/-- A text. -/
def text? : Value → Option String
  | .string s => some s
  | _ => none

/-- A list of texts. -/
def texts? : Value → Option (List String)
  | .array items => items.mapM text?
  | _ => none

/-- A number that is not negative. -/
def natural? : Value → Option Nat
  | .integer n => if 0 ≤ n then some n.toNat else none
  | _ => none

/-- Tests for a value without contents. -/
def isEmpty : Value → Bool
  | .table _ [] => true
  | .array [] => true
  | _ => false

/-- The codec with a name. -/
def codecOfName? : String → Option Codec
  | "bincode" => some .bincode
  | "json" => some .json
  | _ => none

/-- A codec: its name, or a table that maps its name to nothing. -/
def codec? : Value → Option Codec
  | .string name => codecOfName? name
  | .table _ [(name, v)] => if isEmpty v then codecOfName? name else none
  | _ => none

/-- A field that must be there. -/
def required (fs : Fields) (place : Nat) (name : String) (read : Value → Option α) : Option α := do
  read (← fs.get? place name)

/-- A field that has a default. -/
def optional (fs : Fields) (place : Nat) (name : String) (default : α) (read : Value → Option α) :
    Option α :=
  match fs.get? place name with
  | some v => read v
  | none => some default

/-- How a node is reached. -/
def node? (v : Value) : Option NodeConfig := do
  let fs ← fields? v
  let url ← required fs 0 "url" text?
  let listenAddress ← required fs 1 "listen_address" text?
  let readTimeout ← optional fs 2 "read_timeout_secs" 10 natural?
  some { url, listenAddress, readTimeout }

/-- Where the keys of a node come from. -/
def enclave? (v : Value) : Option EnclaveConfig := do
  let fs ← fields? v
  let keyFile ← required fs 0 "key_file" text?
  let passwordVariable ← optional fs 1 "password_env" none fun v => (text? v).map some
  let forwardingKeys ← optional fs 2 "forwarding_keys" [] texts?
  some { keyFile, passwordVariable, forwardingKeys }

/-- Where a node keeps its records. -/
def storage? (v : Value) : Option StorageConfig := do
  let fs ← fields? v
  let backend ← optional fs 0 "backend" "sled" text?
  let dataDirectory ← optional fs 1 "data_dir" "" text?
  let codec ← optional fs 2 "codec" .bincode codec?
  some { backend, dataDirectory, codec }

/-- How a node deals with other nodes. -/
def peers? (v : Value) : Option PeersConfig := do
  let fs ← fields? v
  let bootstrap ← optional fs 0 "bootstrap" [] texts?
  let validationTimeout ← optional fs 1 "validation_timeout_secs" 5 natural?
  let concurrentValidations ← optional fs 2 "max_concurrent_validations" 16 natural?
  let pollInterval ← optional fs 3 "poll_interval_secs" 30 natural?
  some { bootstrap, validationTimeout, concurrentValidations, pollInterval }

/-- What a node reports about its work. -/
def logging? (v : Value) : Option LoggingConfig := do
  let fs ← fields? v
  let level ← required fs 0 "level" text?
  let format ← required fs 1 "format" text?
  some { level, format }

end ConfigDocument

namespace Config

open ConfigDocument

/-- The configuration of a document. -/
def ofEntries? (entries : Entries) : Option Config := do
  let fs := Fields.named entries
  let node ← required fs 0 "node" node?
  let enclave ← required fs 1 "enclave" enclave?
  let storage ← required fs 2 "storage" storage?
  let peers ← optional fs 3 "peers" {} peers?
  let logging ← optional fs 4 "logging" {} logging?
  some { node, enclave, storage, peers, logging }

/-- The configuration of a text. -/
def parse? (text : String) : Option Config := (Toml.parse? text).bind ofEntries?

open Toml (assignment renderString renderStrings titled)

/-- The text of a configuration. -/
def render (c : Config) : String :=
  Text.join "\n"
    [titled "node"
      [assignment "url" (renderString c.node.url),
        assignment "listen_address" (renderString c.node.listenAddress),
        assignment "read_timeout_secs" (Text.decimal c.node.readTimeout)],
      titled "enclave"
        (assignment "key_file" (renderString c.enclave.keyFile) ::
          (c.enclave.passwordVariable.toList.map fun name =>
            assignment "password_env" (renderString name)) ++
          [assignment "forwarding_keys" (renderStrings c.enclave.forwardingKeys)]),
      titled "storage"
        [assignment "backend" (renderString c.storage.backend),
          assignment "data_dir" (renderString c.storage.dataDirectory),
          assignment "codec" (renderString c.storage.codec.name)],
      titled "peers"
        [assignment "bootstrap" (renderStrings c.peers.bootstrap),
          assignment "validation_timeout_secs" (Text.decimal c.peers.validationTimeout),
          assignment "max_concurrent_validations" (Text.decimal c.peers.concurrentValidations),
          assignment "poll_interval_secs" (Text.decimal c.peers.pollInterval)],
      titled "logging"
        [assignment "level" (renderString c.logging.level),
          assignment "format" (renderString c.logging.format)]]

/-- The configuration of the text of a file. -/
def load (path text : String) : Except AppError Config :=
  match parse? text with
  | some c => .ok c
  | none => .error (.unreadableConfig path)

/-- The configuration of the text of a file, which must make sense. If there is no file, a new
configuration together with the text that it is to be written as. -/
def loadOrCreate (home path : String) :
    (text : Option String) → Except AppError (Config × Option String)
  | some text => do
    let c ← load path text
    let c ← c.completed home
    .ok (c, none)
  | none => .ok (default home, some (default home).render)

end Config

end SealedExchange
