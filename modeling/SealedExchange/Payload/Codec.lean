import SealedExchange.Payload.Binary
import SealedExchange.Payload.Json

/-! # Codecs

The two byte forms of a payload. A decoded payload is always well formed.
-/

namespace SealedExchange

/-- A byte form of payloads. -/
inductive Codec
  | bincode
  | json
deriving DecidableEq, Repr, Inhabited

/-- Why a payload has no bytes, or bytes are no payload. -/
inductive CodecError
  | encode (reason : String)
  | decode (reason : String)
  | invalid (reason : PayloadError)
deriving DecidableEq, Repr

/-- The wording of an error. -/
def CodecError.message : CodecError → String
  | .encode reason => "Encoding failed: " ++ reason
  | .decode reason => "Decoding failed: " ++ reason
  | .invalid reason => "Decoded payload is invalid: " ++ reason.message

namespace Codec

/-- The name of a codec. -/
def name : Codec → String
  | bincode => "bincode"
  | json => "json"

/-- The codec with a name, whatever the case of its letters. -/
def ofName (name : String) : Except CodecError Codec :=
  match Text.lower name with
  | "bincode" => .ok bincode
  | "json" => .ok json
  | other => .error (.decode ("unknown codec '" ++ other ++ "'"))

/-- The bytes of a payload. -/
def encode (codec : Codec) (p : Payload) : Except CodecError Bytes :=
  match codec with
  | bincode => (Payload.format.write p).mapError fun e => .encode e.message
  | json => (Payload.Json.encode p).mapError fun e => .encode e.message

/-- The payload of a byte string, before it is checked. -/
def parse (codec : Codec) (bytes : Bytes) : Except CodecError Payload :=
  match codec with
  | bincode => (Payload.format.decode bytes).mapError fun e => .decode e.message
  | json => (Json.Reader.run Payload.Json.reader bytes).mapError fun e => .decode e.message

/-- The payload of a byte string. -/
def decode (codec : Codec) (bytes : Bytes) : Except CodecError Payload := do
  let p ← codec.parse bytes
  p.checked.mapError .invalid

end Codec

end SealedExchange
