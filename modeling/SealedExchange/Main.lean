import SealedExchange.Crypto.Sha512
import SealedExchange.Daemon.Path
import SealedExchange.Daemon.System
import SealedExchange.Http.Stream

/-! # The daemon as a program

The program starts a node as its configuration says and answers a connection that it is handed on
its standard input and output. Everything that it decides is decided elsewhere.
-/

namespace SealedExchange.Program

/-- An endless sequence of bytes that nobody can guess who does not know the seed. -/
def entropyOf (seed : Bytes) : Entropy where
  byteAt n := (Crypto.Sha512.digest (seed ++ Bytes.ofNatLE 8 (n / 64))).getD (n % 64) 0

/-- Gives the reason if something fails. -/
def attempt (act : IO Unit) : IO (Except String Unit) := do
  match ← act.toBaseIO with
  | .ok () => return .ok ()
  | .error e => return .error e.toString

/-- What is found under a path. -/
def readFile (path : String) : IO FileState := do
  match ← (IO.FS.readBinFile path).toBaseIO with
  | .ok bytes => return .contents bytes.toList
  | .error e =>
    match e with
    | .noFileOrDirectory .. => return .absent
    | e => return .unreadable e.toString

/-- Makes the directories that a file is in. -/
def makeParent (path : String) : IO Unit := do
  let parts := Path.parent path
  if ¬parts.isEmpty then IO.FS.createDirAll (Path.along path parts)

/-- Writes a file. -/
def writeFile (path : String) (bytes : Bytes) : IO Unit :=
  IO.FS.writeBinFile path ⟨bytes.toArray⟩

/-- The system that the program runs on. -/
def system (home : String) : System IO where
  home
  environment name := IO.getEnv name
  read := readFile
  write path bytes := attempt do
    makeParent path
    writeFile path bytes
  replace path bytes := attempt do
    makeParent path
    writeFile (Path.draft path) bytes
    IO.FS.rename (Path.draft path) path
  openDatabase path := attempt (IO.FS.createDirAll path)
  listen address :=
    return if (Http.Socket.ofAddress? address).isSome then .ok ()
      else .error "invalid address"
  draw act := do
    let seed ← IO.getRandomBytes 64
    return (act (entropyOf seed.toList)).1

/-- Reads pieces until they make up a request or no more come. -/
partial def receive (input : IO.FS.Stream) (pieces : List Bytes) :
    IO (Except Http.Refusal Http.Request) := do
  let piece ← input.read (USize.ofNat Http.pieceLength)
  let stream : Http.Stream := { pieces := pieces ++ [piece.toList], stalls := !piece.isEmpty }
  match stream.request.1 with
  | .error .timeout => receive input stream.pieces
  | result => return result

/-- Answers a request. No other node is reached from here. -/
def respond (sys : System IO) (node : Node) : Except Http.Refusal Http.Request → IO Http.Response
  | .error refusal => return refusal.response
  | .ok r => do
    let unreachable (l : Listing) (_ : Bytes) : Reply :=
      .error (.request (Url.join l.url challengePath) "connection refused")
    let answer ← sys.draw (node.respond r unreachable 0)
    return answer.response

end SealedExchange.Program

open SealedExchange in
/-- Launches the daemon. -/
def main (arguments : List String) : IO UInt32 := do
  match Arguments.parse arguments with
  | .error refusal => return UInt32.ofNat refusal.exitCode
  | .ok a => do
    let home := (← IO.getEnv "HOME").getD "."
    let sys := Program.system home
    let launch ← Launch.run sys a
    for line in launch.notice do IO.println line
    for complaint in launch.complaint do IO.eprintln complaint.line
    let output ← IO.getStdout
    let write (report : Report) : IO Unit :=
      output.write ⟨(report.line launch.asDocuments ++ [0x0a]).toArray⟩
    launch.heard.forM write
    if let some (_, node) := launch.running then
      let request ← Program.receive (← IO.getStdin) []
      let response ← Program.respond sys node request
      output.write ⟨response.wire.toArray⟩
    launch.heardAtEnd.forM write
    return UInt32.ofNat launch.exitCode
