import SealedExchange.Bytes
import SealedExchange.Decimal.Shortest
import SealedExchange.Text.Quoted

/-! # What can be wrong with a JSON document

A document is refused at the first place where it is not JSON or does not have the expected form.
The place is told by its line and column.
-/

namespace SealedExchange.Json

/-- What is being read when the input ends. -/
inductive Inside
  | list
  | object
  | string
  | value
deriving DecidableEq, Repr

/-- What stands where something else is expected. -/
inductive Found
  | null
  | bool (value : Bool)
  | natural (value : Nat)
  | negative (value : Int)
  | float (value : Float)
  | text (value : String)
  | sequence
  | map

/-- Numbers that are not whole have a point up to sixteen places before it and four zeros after
it, and an exponent with its sign otherwise. -/
def floatStyle : Decimal.Style := ⟨16, 4, true⟩

/-- The description of something found. -/
def Found.describe : Found → String
  | .null => "null"
  | .bool true => "boolean `true`"
  | .bool false => "boolean `false`"
  | .natural n => "integer `" ++ Text.decimal n ++ "`"
  | .negative n => "integer `" ++ Text.decimalInt n ++ "`"
  | .float x => "floating point `" ++ floatStyle.render x ++ "`"
  | .text s => "string " ++ Text.quoted s
  | .sequence => "sequence"
  | .map => "map"

/-- Why a document is refused. -/
inductive Error
  | endOfInput (inside : Inside)
  | expectedColon
  | expectedCommaOrEnd (inside : Inside)
  | expectedIdentifier
  | expectedValue
  | invalidEscape
  | invalidNumber
  | numberOutOfRange
  | invalidCodePoint
  | controlCharacter
  | keyNotString
  | loneSurrogate
  | trailingComma
  | trailingCharacters
  | shortHexEscape
  | tooDeep
  /-- A value of another type than expected. -/
  | invalidType (found : Found) (expected : String)
  /-- A value of the right type that is out of range. -/
  | invalidValue (found : Found) (expected : String)
  /-- A sequence that ends too early. -/
  | invalidLength (length : Nat) (expected : String)
  /-- A name that is none of those listed. -/
  | unknownVariant (name : String) (expected : List String)
  | missingField (name : String)
  | duplicateField (name : String)

/-- The wording of an error. -/
def Error.message : Error → String
  | .endOfInput .list => "EOF while parsing a list"
  | .endOfInput .object => "EOF while parsing an object"
  | .endOfInput .string => "EOF while parsing a string"
  | .endOfInput .value => "EOF while parsing a value"
  | .expectedColon => "expected `:`"
  | .expectedCommaOrEnd .list => "expected `,` or `]`"
  | .expectedCommaOrEnd _ => "expected `,` or `\x7d`"
  | .expectedIdentifier => "expected ident"
  | .expectedValue => "expected value"
  | .invalidEscape => "invalid escape"
  | .invalidNumber => "invalid number"
  | .numberOutOfRange => "number out of range"
  | .invalidCodePoint => "invalid unicode code point"
  | .controlCharacter => "control character (\\u0000-\\u001F) found while parsing a string"
  | .keyNotString => "key must be a string"
  | .loneSurrogate => "lone leading surrogate in hex escape"
  | .trailingComma => "trailing comma"
  | .trailingCharacters => "trailing characters"
  | .shortHexEscape => "unexpected end of hex escape"
  | .tooDeep => "recursion limit exceeded"
  | .invalidType found expected =>
    "invalid type: " ++ found.describe ++ ", expected " ++ expected
  | .invalidValue found expected =>
    "invalid value: " ++ found.describe ++ ", expected " ++ expected
  | .invalidLength length expected =>
    "invalid length " ++ Text.decimal length ++ ", expected " ++ expected
  | .unknownVariant name expected =>
    "unknown variant `" ++ name ++ "`, expected one of " ++
      Text.join ", " (expected.map fun e => "`" ++ e ++ "`")
  | .missingField name => "missing field `" ++ name ++ "`"
  | .duplicateField name => "duplicate field `" ++ name ++ "`"

/-- A place in a document. Lines count from one; the column is the number of bytes of the line in
front of the place. -/
structure Place where
  line : Nat
  column : Nat
deriving DecidableEq, Repr

/-- The place in an input at which a number of its last bytes is left. -/
def Place.between (input rest : Bytes) : Place :=
  let read := input.take (input.length - rest.length)
  ⟨read.count 0x0a + 1, (read.reverse.takeWhile (· ≠ 0x0a)).length⟩

/-- An error and its place in the document. -/
structure Fault where
  error : Error
  place : Place

/-- The wording of an error with its place. -/
def Fault.message (f : Fault) : String :=
  f.error.message ++ " at line " ++ Text.decimal f.place.line ++
    " column " ++ Text.decimal f.place.column

end SealedExchange.Json
