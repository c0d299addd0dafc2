import SealedExchange.Http.Chunks
import SealedExchange.Http.Endpoint
import SealedExchange.Peer.Error

/-! # Posting to a url

A post is a request with a body of bytes. `Received.ofBytes?` reads the response as the bytes that a
connection delivers until it is closed. A body has the length that the head states, or it comes in
chunks, or it ends with the connection. A response may send the client to another url, which does
not answer posts.
-/

namespace SealedExchange.Http

/-- The first line of a post. -/
def Endpoint.postLine (e : Endpoint) : String := "POST " ++ e.target ++ " HTTP/1.1"

/-- A response as it was received. -/
structure Received where
  status : Nat
  headers : List Header
  /-- The body, unless the connection was closed before it was complete. -/
  body : Option Bytes

namespace Received

/-- The greatest number of headers in a head. -/
def maxHeaders : Nat := 100

/-- A stated length is below this. -/
def lengthBound : Nat := Bytes.count 8 - 2

/-- Drops empty lines. -/
def skipEmptyLines : Bytes → Bytes
  | 0x0a :: rest => skipEmptyLines rest
  | 0x0d :: 0x0a :: rest => skipEmptyLines rest
  | bytes => bytes

/-- Reads a status line: the minor version and the status. -/
def statusOf? (line : Bytes) : Option (Nat × Nat) := do
  let minor ← match line.take 9 with
    | [0x48, 0x54, 0x54, 0x50, 0x2f, 0x31, 0x2e, 0x30, 0x20] => some 0
    | [0x48, 0x54, 0x54, 0x50, 0x2f, 0x31, 0x2e, 0x31, 0x20] => some 1
    | _ => none
  let digits := (line.drop 9).take 3
  let status ← Text.readDecimal? (digits.map fun b => Char.ofNat b.toNat)
  let phrase := line.drop 12
  if digits.length = 3 ∧ 100 ≤ status ∧ (phrase = [] ∨ phrase.head? = some 0x20) ∧
      phrase.all Header.isPrintable then
    some (minor, status)
  else none

/-- The numbers in a value, between commas. -/
def numbersOf (value : Bytes) : List (Option Nat) :=
  match Header.plainText? value with
  | none => [none]
  | some text => (Text.split ',' text).map fun part => Text.readDecimal? (Text.trim part).toList

/-- The length that headers state; no answer if they contradict each other or are no numbers. -/
def lengthOf? (values : List Bytes) : Option Nat :=
  match values.flatMap numbersOf with
  | some n :: rest => if n < lengthBound ∧ rest.all (· = some n) then some n else none
  | _ => none

/-- Tests whether the last of the encodings of a body is the one in chunks. -/
def isChunked (values : List Bytes) : Bool :=
  (values.getLast?.bind Header.plainText?).any fun text =>
    (Text.split ',' text).getLast?.any fun coding => Text.lower (Text.trim coding) = "chunked"

/-- The body behind a head. No answer if the head does not tell how the body ends. -/
def bodyOf? (minor status : Nat) (headers : List Header) (rest : Bytes) : Option (Option Bytes) :=
  let encodings := Header.valuesOf headers "transfer-encoding"
  let lengths := Header.valuesOf headers "content-length"
  if status < 200 ∨ status = 204 ∨ status = 304 then some (some [])
  -- An encoding overrides any stated length.
  else if encodings ≠ [] then
    if minor = 0 then none
    else if isChunked encodings then some (Chunks.read? rest)
    else some (some rest)
  else if lengths ≠ [] then
    (lengthOf? lengths).map fun n => if n ≤ rest.length then some (rest.take n) else none
  else some (some rest)

/-- Reads a response. Those that only announce the proper response are passed over. -/
def read? : (fuel : Nat) → Bytes → Option Received
  | 0, _ => none
  | fuel + 1, bytes => do
    let (line, rest) ← Header.takeLine? (skipEmptyLines bytes)
    let (minor, status) ← statusOf? line
    let (headers, rest) ← Header.readAll? rest
    if maxHeaders < headers.length then none
    else if 100 ≤ status ∧ status < 200 ∧ status ≠ 101 then read? fuel rest
    else
      let body ← bodyOf? minor status headers rest
      some { status, headers, body }

/-- The response in the bytes that a connection delivers. -/
def ofBytes? (bytes : Bytes) : Option Received := read? (bytes.length + 1) bytes

/-- The url that a response to a request for another url sends the client to. A response that does
not name one properly stands for itself. -/
def redirection? (url : String) (r : Received) : Option Address := do
  let location ← (Header.valuesOf r.headers "location").head?
  let text ← (Text.Utf8.decode location).toOption
  let address ← Address.parse? (Address.parse? none url) text
  if r.status ∈ [301, 302, 303, 307, 308] ∧ address.isTarget then some address else none

end Received

/-- What comes back from a post to a url, given the bytes that the connection delivers until it is
closed, or nothing if it stays open. Another url that the client is sent to does not answer. -/
def replyTo (url : String) : (delivered : Option Bytes) → Reply
  | none => .error (.timeout url)
  | some bytes =>
    match Received.ofBytes? bytes with
    | none => .error (.request url "malformed response")
    | some r =>
      if (r.redirection? url).isSome then .error (.request url "redirected")
      else if r.status < 200 ∨ 300 ≤ r.status then .error (.status url r.status)
      else
        match r.body with
        | some body => .ok body
        | none => .error (.request url "incomplete response")

end SealedExchange.Http
