import SealedExchange.Api.Field
import SealedExchange.Http.Request
import SealedExchange.Http.Response
import SealedExchange.Api.Reply

/-! # Routes

A route is what a request asks a node to do. Most routes have a path of their own; those about one
stored message name it in their path by its hash in percent-encoded base64.
-/

namespace SealedExchange

/-- What a request asks for. -/
inductive Route
  | upcheck
  | push
  | directory
  | announcement
  | challenge
  | send
  | sendSigned
  | storeRaw
  | createPayload
  | openPayload
  | delete (hash : MessageHash)
  | isSender (hash : MessageHash)
  | participants (hash : MessageHash)
  | mandatory (hash : MessageHash)
  | receive (request : ReceiveRequest)

namespace Route

/-- Why a request has no route. -/
inductive Unrouted
  | notFound
  | methodNotAllowed
  | invalid (reason : TransactionError)

/-- The response to a request that has no route. -/
def Unrouted.response : Unrouted → Http.Response
  | notFound => .notFound
  | methodNotAllowed => .methodNotAllowed
  | invalid reason => reason.response

/-- The routes with a path of their own, with path and method. -/
def fixed : List (String × String × Route) :=
  [("/upcheck", "GET", upcheck),
    ("/push", "POST", push),
    ("/partyinfo", "GET", directory),
    ("/partyinfo", "POST", announcement),
    ("/partyinfo/validate", "POST", challenge),
    ("/send", "POST", send),
    ("/sendsignedtx", "POST", sendSigned),
    ("/storeraw", "POST", storeRaw),
    ("/encodedpayload/create", "POST", createPayload),
    ("/encodedpayload/decrypt", "POST", openPayload)]

/-- The route with a path of its own. -/
def ofFixed (method path : String) : Except Unrouted Route :=
  match fixed.filter (·.1 = path) with
  | [] => .error .notFound
  | found =>
    match found.find? (·.2.1 = method) with
    | some (_, _, route) => .ok route
    | none => .error .methodNotAllowed

/-- What can be asked about a stored message. -/
inductive Action
  | message
  | isSender
  | participants
  | mandatory
deriving DecidableEq, Repr

/-- The action with a name. -/
def Action.ofName? : String → Option Action
  | "isSender" => some isSender
  | "participants" => some participants
  | "mandatory" => some mandatory
  | _ => none

/-- The encoded hash and the action of the rest of a path. -/
def splitAction (rest : String) : Option (String × Action) :=
  match Text.splitOnce '/' rest with
  | none => some (rest, .message)
  | some (hash, name) => (Action.ofName? name).map fun action => (hash, action)

/-- Reads a percent-encoded hash. -/
def readHash (encoded : String) : Except Unrouted MessageHash := do
  let text ← (Api.readPercent encoded).mapError .invalid
  (Api.readHash text).mapError .invalid

/-- The request for a message that a query describes further. -/
def readReceive (hash : MessageHash) (query : String) : Except TransactionError ReceiveRequest := do
  let recipient ← Api.queryKey query "to"
  let raw ← Api.queryParameter query "isRaw"
  .ok { hash, recipient, raw := raw.any (Text.sameIgnoringCase · "true") }

/-- The route of a request about a stored message. -/
def ofTransaction (method rest query : String) : Except Unrouted Route :=
  match splitAction rest with
  | none => .error .notFound
  | some (encoded, action) =>
    if action = .message ∧ method = "DELETE" then (readHash encoded).map delete
    else if method ≠ "GET" then .error .methodNotAllowed
    else do
      let hash ← readHash encoded
      match action with
      | .isSender => .ok (isSender hash)
      | .participants => .ok (participants hash)
      | .mandatory => .ok (mandatory hash)
      | .message => ((readReceive hash query).mapError .invalid).map receive

/-- The route of a request. -/
def ofRequest (r : Http.Request) : Except Unrouted Route :=
  match Text.dropStart? "/transaction/" r.path with
  | some rest => ofTransaction r.method rest r.query
  | none => ofFixed r.method r.path

end Route

end SealedExchange
