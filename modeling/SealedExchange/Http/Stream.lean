import SealedExchange.Http.Request
import SealedExchange.Http.Response

/-! # Reading requests from connections

A connection delivers bytes in pieces of its own choice. `Stream.request` puts the pieces together
until the head and then the body are complete, within bounds on both. What is left unread comes
back with the result.
-/

namespace SealedExchange.Http

/-- The bytes that a connection delivers. -/
structure Stream where
  /-- The pieces in which the bytes arrive. -/
  pieces : List Bytes
  /-- Whether the connection stays open after the last piece without delivering anything. -/
  stalls : Bool := false

/-- Why no request can be read. -/
inductive Refusal
  | headersTooLarge
  | incompleteRequest
  | malformedRequest
  | bodyTooLarge
  | incompleteBody
  | timeout
deriving DecidableEq, Repr

/-- The response to what is no request. -/
def Refusal.response : Refusal → Response
  | headersTooLarge => .text 413 "Headers too large"
  | incompleteRequest => .text 400 "Incomplete request"
  | malformedRequest => .text 400 "Malformed request"
  | bodyTooLarge => .text 413 "Body too large"
  | incompleteBody => .text 400 "Incomplete body"
  | timeout => .text 408 "Request timeout"

/-- No more than this many bytes are searched for the end of a head before it is refused. -/
def maxHeadLength : Nat := 16 * 1024

/-- The greatest length of a body. -/
def maxBodyLength : Nat := 16 * 1024 * 1024

/-- The greatest length of a piece. -/
def pieceLength : Nat := 4096

/-- Cuts at the first empty line: the head and what follows the empty line. -/
def splitHead? : Bytes → Option (Bytes × Bytes)
  | [] => none
  | b :: rest =>
    match b, rest with
    | 0x0d, 0x0a :: 0x0d :: 0x0a :: body => some ([], body)
    | _, _ => (splitHead? rest).map fun (head, body) => (b :: head, body)

namespace Stream

/-- The bytes sent on a connection, in pieces of the greatest length. -/
def ofBytes (bytes : Bytes) (stalls : Bool := false) : Stream :=
  { pieces := Bytes.chunks pieceLength bytes, stalls }

/-- What it means that no more bytes come. -/
def ended (stalls : Bool) (closed : Refusal) : Refusal := if stalls then .timeout else closed

/-- Reads until the head is complete: the head, what has been read of the body, and the pieces that
are left. -/
def readHead (stalls : Bool) (buffer : Bytes) (pieces : List Bytes) :
    Except Refusal (Bytes × Bytes) × List Bytes :=
  match splitHead? buffer with
  | some parts => (.ok parts, pieces)
  | none =>
    -- The bound is checked between pieces, so it can be exceeded by one piece.
    if maxHeadLength < buffer.length then (.error .headersTooLarge, pieces)
    else
      match pieces with
      | [] => (.error (ended stalls .incompleteRequest), [])
      | piece :: rest => readHead stalls (buffer ++ piece) rest

/-- Reads until the body is complete. -/
def readBody (stalls : Bool) (length : Nat) (body : Bytes) (pieces : List Bytes) :
    Except Refusal Bytes × List Bytes :=
  if length ≤ body.length then (.ok (body.take length), pieces)
  else
    match pieces with
    | [] => (.error (ended stalls .incompleteBody), [])
    | piece :: rest => readBody stalls length (body ++ piece) rest

/-- Reads a request, and hands back the pieces that are left. -/
def request (s : Stream) : Except Refusal Request × List Bytes :=
  match readHead s.stalls [] s.pieces with
  | (.error e, rest) => (.error e, rest)
  | (.ok (head, start), rest) =>
    match Head.parse? head with
    | none => (.error .malformedRequest, rest)
    | some head =>
      if maxBodyLength < head.contentLength then (.error .bodyTooLarge, rest)
      else
        match readBody s.stalls head.contentLength start rest with
        | (.error e, rest) => (.error e, rest)
        | (.ok body, rest) =>
          (.ok { method := head.method, path := head.path, query := head.query, body }, rest)

end Stream

end SealedExchange.Http
