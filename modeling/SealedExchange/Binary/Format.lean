import SealedExchange.Text.Utf8

/-! # The binary layout

Values are laid out without gaps, in little-endian byte order: lengths take eight bytes, the
number of an alternative four, and an optional value starts with a byte that is one or zero. A
`Format` is a writer together with the reader that undoes it and hands back what follows.
-/

namespace SealedExchange.Binary

/-- Why bytes do not have a layout, or a value has none. -/
inductive Error
  | endOfInput
  /-- A text that is shorter than its length says. -/
  | endOfText
  /-- The number of an alternative that does not exist. -/
  | unknownAlternative (found count : Nat)
  /-- An optional value that starts with neither zero nor one. -/
  | badOptionTag (found : Nat)
  | badText (reason : Text.Utf8.DecodeError)
  /-- A sequence with more elements than its length field can say. -/
  | tooLong
deriving DecidableEq, Repr

/-- The wording of an error. -/
def Error.message : Error → String
  | .endOfInput => "io error: unexpected end of file"
  | .endOfText => "io error: "
  | .unknownAlternative found count =>
    "invalid value: integer `" ++ toString found ++ "`, expected variant index 0 <= i < " ++
      toString count
  | .badOptionTag found => "tag for enum is not valid, found " ++ toString found
  | .badText reason => "string is not valid utf8: " ++ reason.message
  | .tooLong => "the size limit has been reached"

/-- Consumes the beginning of a byte string. -/
abbrev Reader (α : Type) := Bytes → Except Error (α × Bytes)

/-- A layout: a writer and the reader that undoes it. -/
structure Format (α : Type) where
  write : α → Except Error Bytes
  read : Reader α

namespace Format

/-- Reading undoes writing and leaves alone what follows. -/
def Lawful (f : Format α) : Prop :=
  ∀ a bytes rest, f.write a = .ok bytes → f.read (bytes ++ rest) = .ok (a, rest)

/-- Takes a number of bytes. -/
def take (n : Nat) : Reader Bytes := fun input =>
  if n ≤ input.length then .ok (input.take n, input.drop n) else .error .endOfInput

/-- A single byte. -/
def byte : Format UInt8 where
  write b := .ok [b]
  read
    | [] => .error .endOfInput
    | b :: rest => .ok (b, rest)

/-- A number that fits a width. -/
def natural (width : Nat) : Format Nat where
  write n := if n < Bytes.count width then .ok (Bytes.ofNatLE width n) else .error .tooLong
  read input := (take width input).map fun (bytes, rest) => (bytes.toNatLE, rest)

/-- A signed number of 64 bits in two's complement. -/
def signed : Format Int64 where
  write n := .ok (Bytes.ofNatLE 8 n.toUInt64.toNat)
  read input := (take 8 input).map fun (bytes, rest) =>
    ((UInt64.ofNat bytes.toNatLE).toInt64, rest)

/-- A layout in terms of another one. -/
def map (f : Format α) (of : α → β) (back : β → α) : Format β where
  write b := f.write (back b)
  read input := (f.read input).map fun (a, rest) => (of a, rest)

/-- Two values one after the other. -/
def pair (f : Format α) (g : Format β) : Format (α × β) where
  write ab := do
    let a ← f.write ab.1
    let b ← g.write ab.2
    .ok (a ++ b)
  read input := do
    let (a, rest) ← f.read input
    let (b, rest) ← g.read rest
    .ok ((a, b), rest)

/-- Writes elements one after the other. -/
def writeAll (f : Format α) : List α → Except Error Bytes
  | [] => .ok []
  | a :: as => do
    let first ← f.write a
    let more ← writeAll f as
    .ok (first ++ more)

/-- Reads a number of elements. -/
def readMany (f : Format α) : Nat → Reader (List α)
  | 0 => fun input => .ok ([], input)
  | n + 1 => fun input => do
    let (a, rest) ← f.read input
    let (as, rest) ← readMany f n rest
    .ok (a :: as, rest)

/-- The number of elements and then the elements. -/
def list (f : Format α) : Format (List α) where
  write as := do
    let count ← (natural 8).write as.length
    let elements ← writeAll f as
    .ok (count ++ elements)
  read input := do
    let (count, rest) ← (natural 8).read input
    readMany f count rest

/-- A byte string of any length. -/
def bytes : Format Bytes := list byte

/-- A byte string of a fixed length. -/
def exactly (n : Nat) : Format { bytes : Bytes // bytes.length = n } where
  write b := .ok b.1
  read input :=
    if h : n ≤ input.length then
      .ok (⟨input.take n, by simp [Nat.min_eq_left h]⟩, input.drop n)
    else .error .endOfInput

/-- A byte that says whether there is a value, and then the value. -/
def option (f : Format α) : Format (Option α) where
  write
    | none => .ok [0]
    | some a => do
      let bytes ← f.write a
      .ok (1 :: bytes)
  read
    | [] => .error .endOfInput
    | tag :: rest =>
      if tag = 0 then .ok (none, rest)
      else if tag = 1 then (f.read rest).map fun (a, rest) => (some a, rest)
      else .error (.badOptionTag tag.toNat)

/-- The number of an alternative from a list. -/
def alternative [DecidableEq α] (all : List α) : Format α where
  write a :=
    match all.idxOf? a with
    | some i => (natural 4).write i
    | none => .error .tooLong
  read input := do
    let (i, rest) ← (natural 4).read input
    match all[i]? with
    | some a => .ok (a, rest)
    | none => .error (.unknownAlternative i all.length)

/-- A text: the length of its UTF-8 encoding and the encoding. -/
def text : Format String where
  write s := do
    let encoded := Text.Utf8.encode s
    let count ← (natural 8).write encoded.length
    .ok (count ++ encoded)
  read input := do
    let (count, rest) ← (natural 8).read input
    let (encoded, rest) ← (take count rest).mapError fun _ => .endOfText
    match Text.Utf8.decode encoded with
    | .ok s => .ok (s, rest)
    | .error e => .error (.badText e)

/-- Decodes a value from the beginning of a byte string and ignores what follows. -/
def decode (f : Format α) (input : Bytes) : Except Error α := (f.read input).map Prod.fst

end Format

end SealedExchange.Binary
