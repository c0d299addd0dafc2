import SealedExchange.Text.Utf8
import SealedExchange.Json.Error

/-! # JSON documents

A document as a value, and its text: compact, or laid out with one entry a line and two blanks of
indentation for each level. Members of an object keep the order they are given in.
-/

namespace SealedExchange.Json

/-- A number as the text wrote it. -/
inductive Number
  | natural (value : Nat)
  | negative (value : Int)
  | float (value : Float)

/-- A JSON document. -/
inductive Value
  | null
  | bool (value : Bool)
  | number (value : Number)
  | string (value : String)
  | array (items : List Value)
  | object (members : List (String × Value))

/-- What an error says about a number. -/
def Number.found : Number → Found
  | .natural n => .natural n
  | .negative n => .negative n
  | .float x => .float x

/-- What an error says about a value. -/
def Value.found : Value → Found
  | .null => .null
  | .bool b => .bool b
  | .number n => n.found
  | .string s => .text s
  | .array _ => .sequence
  | .object _ => .map

/-- The document of a natural number. -/
def Value.nat (n : Nat) : Value := .number (.natural n)

/-- The array of the numbers of a byte string. -/
def Value.bytes (bytes : Bytes) : Value := .array (bytes.map fun b => .nat b.toNat)

/-- The document of something that may be missing. -/
def Value.option (f : α → Value) : Option α → Value
  | none => .null
  | some a => f a

/-- ASCII text as bytes. -/
def ascii (text : String) : Bytes := text.toList.map fun c => UInt8.ofNat c.toNat

/-- A character as it stands in a string. -/
def escapedChar (c : Char) : Bytes :=
  if c = '"' then ascii "\\\""
  else if c = '\\' then ascii "\\\\"
  else if c = '\x08' then ascii "\\b"
  else if c = '\x0c' then ascii "\\f"
  else if c = '\n' then ascii "\\n"
  else if c = '\r' then ascii "\\r"
  else if c = '\t' then ascii "\\t"
  else if c.toNat < 0x20 then
    ascii "\\u00" ++ (Bytes.hexChars [UInt8.ofNat c.toNat]).map fun d => UInt8.ofNat d.toNat
  else String.utf8EncodeChar c

/-- A string with its quotes. -/
def renderString (text : String) : Bytes :=
  0x22 :: text.toList.flatMap escapedChar ++ [0x22]

/-- The text of a number. -/
def Number.render : Number → Bytes
  | .natural n => ascii (Text.decimal n)
  | .negative n => ascii (Text.decimalInt n)
  | .float x => ascii (floatStyle.render x)

/-- Byte strings one after the other with a comma in between. -/
def commaSeparated : List Bytes → Bytes
  | [] => []
  | [item] => item
  | item :: rest => item ++ 0x2c :: commaSeparated rest

mutual

/-- The text of a document without blanks. -/
def Value.render : Value → Bytes
  | .null => ascii "null"
  | .bool true => ascii "true"
  | .bool false => ascii "false"
  | .number n => n.render
  | .string s => renderString s
  | .array items => 0x5b :: commaSeparated (Value.renderItems items) ++ [0x5d]
  | .object members => 0x7b :: commaSeparated (Value.renderMembers members) ++ [0x7d]

/-- The texts of the items of an array. -/
def Value.renderItems : List Value → List Bytes
  | [] => []
  | item :: rest => item.render :: Value.renderItems rest

/-- The texts of the members of an object. -/
def Value.renderMembers : List (String × Value) → List Bytes
  | [] => []
  | (name, value) :: rest =>
    (renderString name ++ 0x3a :: value.render) :: Value.renderMembers rest

end

/-- A new line with the indentation of a level. -/
def newLine (level : Nat) : Bytes := 0x0a :: List.replicate (2 * level) 0x20

mutual

/-- The text of a document with one entry a line, at a level of indentation. -/
def Value.renderAt (level : Nat) : Value → Bytes
  | .array (item :: items) =>
    0x5b :: commaSeparated (Value.itemsAt (level + 1) (item :: items)) ++ newLine level ++ [0x5d]
  | .object (member :: members) =>
    0x7b :: commaSeparated (Value.membersAt (level + 1) (member :: members)) ++ newLine level ++
      [0x7d]
  | flat => flat.render

/-- The texts of the items of an array, each on a line of its own. -/
def Value.itemsAt (level : Nat) : List Value → List Bytes
  | [] => []
  | item :: rest => (newLine level ++ item.renderAt level) :: Value.itemsAt level rest

/-- The texts of the members of an object, each on a line of its own. -/
def Value.membersAt (level : Nat) : List (String × Value) → List Bytes
  | [] => []
  | (name, value) :: rest =>
    (newLine level ++ renderString name ++ 0x3a :: 0x20 :: value.renderAt level) ::
      Value.membersAt level rest

end

/-- The text of a document with one entry a line. -/
def Value.renderPretty (value : Value) : Bytes := value.renderAt 0

end SealedExchange.Json
