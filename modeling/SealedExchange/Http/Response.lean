import SealedExchange.Json.Value

/-! # Responses

A response is a status, the kind of its content and the content. On a connection it is written with
its length and the note that the connection is closed afterwards.
-/

namespace SealedExchange.Http

/-- The kind of a content. -/
inductive ContentType
  | text
  | bytes
  | json
deriving DecidableEq, Repr

/-- The name of a kind of content. -/
def ContentType.name : ContentType → String
  | text => "text/plain"
  | bytes => "application/octet-stream"
  | json => "application/json"

/-- A response. -/
structure Response where
  status : Nat
  contentType : ContentType
  body : Bytes
deriving DecidableEq, Repr

namespace Response

/-- A response with a text. -/
def text (status : Nat) (body : String) : Response := ⟨status, .text, Text.Utf8.encode body⟩

/-- A response with bytes. -/
def bytes (status : Nat) (body : Bytes) : Response := ⟨status, .bytes, body⟩

/-- A response with a document. -/
def json (status : Nat) (body : Json.Value) : Response := ⟨status, .json, body.render⟩

/-- A path that does not exist. -/
def notFound : Response := text 404 "Not found"

/-- A path that does not have a method. -/
def methodNotAllowed : Response := text 405 "Method not allowed"

/-- The phrase that goes with a status. -/
def reason (status : Nat) : String :=
  match status with
  | 200 => "OK"
  | 201 => "Created"
  | 204 => "No Content"
  | 400 => "Bad Request"
  | 403 => "Forbidden"
  | 404 => "Not Found"
  | 405 => "Method Not Allowed"
  | 408 => "Request Timeout"
  | 409 => "Conflict"
  | 413 => "Payload Too Large"
  | 503 => "Service Unavailable"
  | _ => "Internal Server Error"

/-- The response as it is written on a connection. -/
def wire (r : Response) : Bytes :=
  Text.Utf8.encode
    ("HTTP/1.1 " ++ Text.decimal r.status ++ " " ++ reason r.status ++ "\r\n" ++
      "Content-Type: " ++ r.contentType.name ++ "\r\n" ++
      "Content-Length: " ++ Text.decimal r.body.length ++ "\r\n" ++
      "Connection: close\r\n\r\n") ++ r.body

end Response

end SealedExchange.Http
