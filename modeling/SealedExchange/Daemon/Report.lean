import SealedExchange.Json.Value

/-! # Reports

The daemon reports what it does, at one of five levels and under the name of the part that reports.
-/

namespace SealedExchange

/-- The levels of reports, gravest first. -/
inductive ReportLevel
  | error
  | warn
  | info
  | debug
  | trace
deriving DecidableEq, Repr

/-- The rank of a level, which is lowest for the gravest. -/
def ReportLevel.rank : ReportLevel → Nat
  | error => 1
  | warn => 2
  | info => 3
  | debug => 4
  | trace => 5

/-- The name of a level. -/
def ReportLevel.name : ReportLevel → String
  | error => "ERROR"
  | warn => "WARN"
  | info => "INFO"
  | debug => "DEBUG"
  | trace => "TRACE"

/-- A report without its text. -/
structure Report where
  part : String
  level : ReportLevel
deriving DecidableEq, Repr

namespace Report

/-- The line that is written for a report, which may be a document. -/
def line (r : Report) (asDocument : Bool) : Bytes :=
  if asDocument then
    (Json.Value.object [("level", .string r.level.name), ("target", .string r.part)]).render
  else Text.Utf8.encode (r.level.name ++ " " ++ r.part)

/-! ### What is reported -/

/-- The daemon itself has come a step further. -/
def progress : Report := ⟨"privtxd", .info⟩

/-- What is stored will be lost. -/
def volatileStores : Report := ⟨"privtxd", .warn⟩

/-- The daemon gives up. -/
def failure : Report := ⟨"privtxd", .error⟩

/-- A key was made. -/
def keyMade : Report := ⟨"privtx::enclave", .info⟩

/-- The database goes through what it holds. -/
def databaseScanned : Report := ⟨"sled::pagecache::iobuf", .debug⟩

/-- The node has begun or ceased to listen. -/
def listening : Report := ⟨"privtx::network::server", .info⟩

/-- Other nodes will be asked what they know. -/
def pollerStarted : Report := ⟨"privtx::network::poller", .info⟩

/-- Other nodes were asked what they know, or will not be asked any more. -/
def pollerPaused : Report := ⟨"privtx::network::poller", .debug⟩

/-- Another node is about to be asked. -/
def connecting : Report := ⟨"reqwest::connect", .debug⟩

/-- The daemon was told to stop, or has stopped. -/
def stopping : Report := ⟨"privtx::shutdown", .info⟩

end Report

end SealedExchange
