import SealedExchange.Api.Field
import SealedExchange.Json.Reader
import SealedExchange.Json.Typed

/-! # The privacy part of request bodies

The privacy fields have a form of their own, and they may also stand among the members of a larger
body, which are then read as documents first. Every field may be missing.
-/

namespace SealedExchange.Api

open Json

/-- What a body says about privacy. -/
structure PrivacyBody where
  flag : Nat := 0
  affected : List String := []
  execHash : Option String := none
  mandatory : List String := []
  groupId : Option String := none
deriving DecidableEq

namespace PrivacyBody

/-- The privacy fields as far as they have been read. -/
structure Partial where
  flag : Option Nat := none
  affected : Option (List String) := none
  execHash : Option (Option String) := none
  mandatory : Option (List String) := none
  groupId : Option (Option String) := none

/-- The body of the fields that were read. -/
def Partial.complete (p : Partial) : PrivacyBody where
  flag := p.flag.getD 0
  affected := p.affected.getD []
  execHash := p.execHash.join
  mandatory := p.mandatory.getD []
  groupId := p.groupId.join

/-- The name of what is read, in errors. -/
def expected : String := "struct PrivacyJson"

/-- Reads a text. -/
def text : Reader String := Reader.text "a string"

/-- Reads a list of texts. -/
def texts : Reader (List String) := Reader.list text

/-- Reads the flag of a privacy mode. -/
def flagReader : Reader Nat := Reader.natBelow 256 "u8"

/-- Reads the member with a given name. -/
def member (p : Partial) (name : String) : Reader Partial := do
  match name with
  | "privacyFlag" => do
    let flag ← Reader.once name p.flag flagReader
    pure { p with flag }
  | "affectedContractTransactions" => do
    let affected ← Reader.once name p.affected texts
    pure { p with affected }
  | "execHash" => do
    let execHash ← Reader.once name p.execHash (Reader.option text)
    pure { p with execHash }
  | "mandatoryRecipients" => do
    let mandatory ← Reader.once name p.mandatory texts
    pure { p with mandatory }
  | "privacyGroupId" => do
    let groupId ← Reader.once name p.groupId (Reader.option text)
    pure { p with groupId }
  | _ => do
    Reader.skipMember
    pure p

/-- Reads the members of an object. -/
def object : Reader PrivacyBody := do
  let p ← Reader.bounded fun fuel => Reader.members member fuel true ({} : Partial)
  pure p.complete

/-- Reads the fields of a list, which may end early. -/
def fields : Reader PrivacyBody := do
  let flag ← Reader.itemOr 0 0 flagReader
  let affected ← Reader.itemOr 1 [] texts
  let execHash ← Reader.itemOr 2 none (Reader.option text)
  let mandatory ← Reader.itemOr 3 [] texts
  let groupId ← Reader.itemOr 4 none (Reader.option text)
  pure { flag, affected, execHash, mandatory, groupId }

/-- Reads a body that holds nothing but privacy fields. -/
def reader : Reader PrivacyBody := Reader.record expected fields object

/-- The value of a field that may not have been found before. -/
def once (name : String) (seen : Option α) (value : Except Json.Error α) :
    Except Json.Error (Option α) :=
  match seen with
  | some _ => .error (.duplicateField name)
  | none => value.map some

/-- Takes a privacy field from a member of a larger body. -/
def take (p : Partial) (name : String) (v : Value) : Except Json.Error Partial := do
  match name with
  | "privacyFlag" => do
    let flag ← once name p.flag (v.natBelow 256 "u8")
    .ok { p with flag }
  | "affectedContractTransactions" => do
    let affected ← once name p.affected v.texts
    .ok { p with affected }
  | "execHash" => do
    let execHash ← once name p.execHash v.optionalText
    .ok { p with execHash }
  | "mandatoryRecipients" => do
    let mandatory ← once name p.mandatory v.texts
    .ok { p with mandatory }
  | "privacyGroupId" => do
    let groupId ← once name p.groupId v.optionalText
    .ok { p with groupId }
  | _ => .ok p

/-- Takes the privacy fields from the members of a larger body. -/
def ofMembers (members : List (String × Value)) : Except Json.Error PrivacyBody := do
  let p ← members.foldlM (fun p (name, v) => take p name v) ({} : Partial)
  .ok p.complete

/-- The member of a text that may be missing. -/
def optionalMember (name : String) : Option String → List (String × Value)
  | none => []
  | some s => [(name, .string s)]

/-- The array of some texts. -/
def textsDocument (ts : List String) : Value := .array (ts.map Value.string)

/-- The members that say the same. -/
def document (b : PrivacyBody) : List (String × Value) :=
  ("privacyFlag", .nat b.flag) ::
    ("affectedContractTransactions", textsDocument b.affected) ::
    optionalMember "execHash" b.execHash ++
    ("mandatoryRecipients", textsDocument b.mandatory) ::
    optionalMember "privacyGroupId" b.groupId

/-- The options that a body stands for. -/
def options (b : PrivacyBody) : Except TransactionError PrivacyOptions := do
  match PrivacyMode.ofCode? b.flag with
  | none => .error (.validation ("Unknown privacy flag " ++ Text.decimal b.flag))
  | some mode => do
    let affected ← b.affected.mapM readHash
    let mandatory ← readKeys b.mandatory
    let execHash ← match b.execHash with
      | some text => readBytes "execHash" text
      | none => .ok []
    let groupId ← match b.groupId with
      | some text => (readBytes "privacyGroupId" text).map some
      | none => .ok none
    .ok { mode, affected, execHash, mandatory := .ofList mandatory, groupId }

end PrivacyBody

end SealedExchange.Api
