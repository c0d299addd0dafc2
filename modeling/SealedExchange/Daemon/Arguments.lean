/-! # The command line

The daemon takes the path of its configuration and two switches. Short options may be written
together, and each option may be given once.
-/

namespace SealedExchange

/-- What the daemon is asked to do. -/
structure Arguments where
  /-- The file that the configuration is read from. -/
  config : Option String := none
  /-- Report everything. -/
  verbose : Bool := false
  /-- Write a new configuration and do nothing else. -/
  generateConfig : Bool := false
deriving DecidableEq, Repr

namespace Arguments

/-- Why a command line does not make the daemon run. -/
inductive Refusal
  | helpWanted
  | misuse
deriving DecidableEq, Repr

/-- The status that the daemon exits with. -/
def Refusal.exitCode : Refusal → Nat
  | helpWanted => 0
  | misuse => 2

/-- Sets the path of the configuration, which may not be empty. -/
def setConfig (a : Arguments) (path : String) : Except Refusal Arguments :=
  if a.config.isSome ∨ path = "" then .error .misuse else .ok { a with config := some path }

/-- Turns the first switch on. -/
def setVerbose (a : Arguments) : Except Refusal Arguments :=
  if a.verbose then .error .misuse else .ok { a with verbose := true }

/-- Turns the second switch on. -/
def setGenerateConfig (a : Arguments) : Except Refusal Arguments :=
  if a.generateConfig then .error .misuse else .ok { a with generateConfig := true }

/-- What follows after some options: the end of an argument, or an option whose value is the next
argument. -/
inductive Pending
  | nothing
  | configPath
deriving DecidableEq, Repr

/-- Reads short options that are written together. -/
def readShort (a : Arguments) : List Char → Except Refusal (Arguments × Pending)
  | [] => .ok (a, .nothing)
  | 'v' :: rest => do
    let a ← a.setVerbose
    readShort a rest
  | 'h' :: _ => .error .helpWanted
  | ['c'] => if a.config.isSome then .error .misuse else .ok (a, .configPath)
  -- The value may be set off by an equals sign.
  | 'c' :: '=' :: path => do
    let a ← a.setConfig (String.ofList path)
    .ok (a, .nothing)
  | 'c' :: path => do
    let a ← a.setConfig (String.ofList path)
    .ok (a, .nothing)
  | _ => .error .misuse

/-- What stands before the value in a long option that is written together with its value. -/
def configStart : List Char := "--config=".toList

/-- Reads an argument that is not the value of an option. -/
def readOne (a : Arguments) (argument : String) : Except Refusal (Arguments × Pending) :=
  if argument = "--help" then .error .helpWanted
  else if argument = "--verbose" then a.setVerbose.map (·, .nothing)
  else if argument = "--generate-config" then a.setGenerateConfig.map (·, .nothing)
  else if argument = "--config" then
    if a.config.isSome then .error .misuse else .ok (a, .configPath)
  else if configStart.isPrefixOf argument.toList then
    (a.setConfig (String.ofList (argument.toList.drop configStart.length))).map (·, .nothing)
  else
    match argument.toList with
    | '-' :: c :: rest => if c = '-' then .error .misuse else readShort a (c :: rest)
    | _ => .error .misuse

/-- Tests whether an argument can be the value of an option. -/
def isValue (argument : String) : Bool :=
  argument = "-" || argument.toList.head? ≠ some '-'

/-- Reads arguments behind others. -/
def readAll (a : Arguments) (pending : Pending) : List String → Except Refusal Arguments
  | [] => if pending = .configPath then .error .misuse else .ok a
  | argument :: rest =>
    match pending with
    | .configPath =>
      if isValue argument then do
        let a ← a.setConfig argument
        readAll a .nothing rest
      else .error .misuse
    | .nothing =>
      if argument = "--" then if rest.isEmpty then .ok a else .error .misuse
      else do
        let (a, pending) ← a.readOne argument
        readAll a pending rest

/-- Reads a command line. -/
def parse (arguments : List String) : Except Refusal Arguments := readAll {} .nothing arguments

end Arguments

end SealedExchange
