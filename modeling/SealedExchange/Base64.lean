import SealedExchange.Text.Utf8

/-! # Standard base64

Four symbols for three bytes, with the alphabet `A-Z a-z 0-9 + /` and `=` up to a multiple of four
symbols. Decoding accepts exactly what encoding writes: padding must be there and bits that no
byte uses must be zero. An error names the first place where the text departs from that form.
-/

namespace SealedExchange.Base64

/-- Why a text is not base64. -/
inductive DecodeError
  /-- A byte outside the alphabet, or padding where a symbol belongs. -/
  | invalidByte (offset : Nat) (byte : UInt8)
  /-- A single symbol in the last group. -/
  | invalidLength (length : Nat)
  /-- A last symbol with bits that no byte uses. -/
  | invalidLastSymbol (offset : Nat) (symbol : UInt8)
  /-- Too little padding. -/
  | invalidPadding
deriving DecidableEq, Repr

/-- The wording of an error. -/
def DecodeError.message : DecodeError → String
  | .invalidByte offset byte =>
    "Invalid symbol " ++ toString byte.toNat ++ ", offset " ++ toString offset ++ "."
  | .invalidLength length => "Invalid input length: " ++ toString length
  | .invalidLastSymbol offset symbol =>
    "Invalid last symbol " ++ toString symbol.toNat ++ ", offset " ++ toString offset ++ "."
  | .invalidPadding => "Invalid padding"

/-- The symbol of a number below 64. -/
def symbol (n : Nat) : UInt8 :=
  if n < 26 then UInt8.ofNat (65 + n)
  else if n < 52 then UInt8.ofNat (71 + n)
  else if n < 62 then UInt8.ofNat (n - 4)
  else if n = 62 then 43
  else 47

/-- The number of a symbol. -/
def value? (b : UInt8) : Option Nat :=
  if 65 ≤ b && b ≤ 90 then some (b.toNat - 65)
  else if 97 ≤ b && b ≤ 122 then some (b.toNat - 71)
  else if 48 ≤ b && b ≤ 57 then some (b.toNat + 4)
  else if b = 43 then some 62
  else if b = 47 then some 63
  else none

/-- The padding symbol. -/
def padding : UInt8 := 61

/-- The symbols of a byte string. -/
def encodeBytes : Bytes → Bytes
  | a :: b :: c :: rest =>
    let n := a.toNat * 65536 + b.toNat * 256 + c.toNat
    symbol (n / 262144) :: symbol (n / 4096 % 64) :: symbol (n / 64 % 64) :: symbol (n % 64) ::
      encodeBytes rest
  | [a, b] =>
    let n := a.toNat * 1024 + b.toNat * 4
    [symbol (n / 4096), symbol (n / 64 % 64), symbol (n % 64), padding]
  | [a] => [symbol (a.toNat / 4), symbol (a.toNat % 4 * 16), padding, padding]
  | [] => []

/-- The base64 text of a byte string. -/
def encode (bytes : Bytes) : String :=
  String.ofList ((encodeBytes bytes).map fun b => Char.ofNat b.toNat)

/-- The number of the symbol at an offset. -/
def valueAt (offset : Nat) (b : UInt8) : Except DecodeError Nat :=
  match value? b with
  | some n => .ok n
  | none => .error (.invalidByte offset b)

/-- The three bytes of four numbers below 64. -/
def bytesOfGroup (a b c d : Nat) : Bytes :=
  [UInt8.ofNat (a * 4 + b / 16), UInt8.ofNat (b % 16 * 16 + c / 4), UInt8.ofNat (c % 4 * 64 + d)]

/-- Decodes the last group, of at most four symbols. -/
def decodeLast (offset : Nat) : Bytes → Except DecodeError Bytes
  | [] => .ok []
  | [a] => do
    let _ ← valueAt offset a
    .error (.invalidLength (offset + 1))
  | [a, b] => do
    let _ ← valueAt offset a
    let _ ← valueAt (offset + 1) b
    .error .invalidPadding
  | [a, b, c] => do
    let _ ← valueAt offset a
    let _ ← valueAt (offset + 1) b
    if c ≠ padding then
      let _ ← valueAt (offset + 2) c
    .error .invalidPadding
  | a :: b :: c :: d :: _ => do
    let na ← valueAt offset a
    let nb ← valueAt (offset + 1) b
    if c = padding then
      if d ≠ padding then
        .error (.invalidByte (offset + 2) padding)
      else if nb % 16 ≠ 0 then
        .error (.invalidLastSymbol (offset + 1) b)
      else
        .ok ((bytesOfGroup na nb 0 0).take 1)
    else
      let nc ← valueAt (offset + 2) c
      if d = padding then
        if nc % 4 ≠ 0 then
          .error (.invalidLastSymbol (offset + 2) c)
        else
          .ok ((bytesOfGroup na nb nc 0).take 2)
      else
        let nd ← valueAt (offset + 3) d
        .ok (bytesOfGroup na nb nc nd)

/-- Decodes groups of four symbols, of which only the last one may hold padding. -/
def decodeGroups (offset : Nat) : Bytes → Except DecodeError Bytes
  | a :: b :: c :: d :: e :: rest => do
    let na ← valueAt offset a
    let nb ← valueAt (offset + 1) b
    let nc ← valueAt (offset + 2) c
    let nd ← valueAt (offset + 3) d
    let bytes ← decodeGroups (offset + 4) (e :: rest)
    .ok (bytesOfGroup na nb nc nd ++ bytes)
  | last => decodeLast offset last

/-- Decodes the symbols of a byte string. A stray byte at the end of a text whose length is one
more than a multiple of four is reported before anything else. -/
def decodeBytes (symbols : Bytes) : Except DecodeError Bytes :=
  match symbols.getLast? with
  | some last =>
    if symbols.length % 4 = 1 ∧ last ≠ padding ∧ value? last = none then
      .error (.invalidByte (symbols.length - 1) last)
    else decodeGroups 0 symbols
  | none => .ok []

/-- Decodes a base64 text. -/
def decode (text : String) : Except DecodeError Bytes :=
  decodeBytes (Text.Utf8.encode text)

end SealedExchange.Base64
