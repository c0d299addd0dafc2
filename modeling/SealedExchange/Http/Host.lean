import SealedExchange.Http.Host.Encoded
import SealedExchange.Text.Basic
import SealedExchange.Text.Percent

/-! # Hosts

A host is a name or an internet address. The numbers of an address of version 4 may be decimal,
hexadecimal or octal, and the last one stands for all the bytes that are left: `127.1` and `0x7f.1`
are the same address. A host that ends in a number is such an address or no host at all.
-/

namespace SealedExchange.Http

/-- A host. -/
inductive Host
  | name (text : String)
  | ipv4 (number : Nat)
  /-- The eight groups of 16 bits. -/
  | ipv6 (groups : List Nat)
deriving DecidableEq, Repr

namespace Host

/-! ## Addresses of version 4 -/

/-- The value of digits, all of which must be below the base. -/
def ofDigits? (base : Nat) (digits : List Char) : Option Nat :=
  digits.foldlM (fun n c => do
    let d ← Bytes.hexValue? c
    if d < base then some (base * n + d) else none) 0

/-- A number: hexadecimal behind `0x`, octal behind a zero and decimal otherwise. -/
def number? : List Char → Option Nat
  | [] => none
  | '0' :: c :: rest => if c = 'x' ∨ c = 'X' then ofDigits? 16 rest else ofDigits? 8 (c :: rest)
  | digits => ofDigits? 10 digits

/-- The address of some numbers: a byte each, but the last one fills up the address. -/
def ofNumbers? (numbers : List Nat) : Option Nat :=
  let bytes := numbers.dropLast
  match numbers.getLast? with
  | none => none
  | some last =>
    if bytes.length ≤ 3 ∧ (∀ b ∈ bytes, b < 256) ∧ last < Bytes.count (4 - bytes.length) then
      some (bytes.foldl (256 * · + ·) 0 * Bytes.count (4 - bytes.length) + last)
    else none

/-- The parts between full stops. A full stop at the end does not count. -/
def partsOf (chars : List Char) : List (List Char) :=
  let parts := Text.splitChars '.' chars
  if 1 < parts.length ∧ parts.getLast? = some [] then parts.dropLast else parts

/-- Tests whether the last part is a number. -/
def endsInNumber (chars : List Char) : Bool :=
  (partsOf chars).getLast?.any fun last =>
    last ≠ [] && (last.all Char.isDigit || (number? last).isSome)

/-- Reads an address of version 4. -/
def readIpv4? (chars : List Char) : Option Nat := ((partsOf chars).mapM number?).bind ofNumbers?

/-- Reads an address of version 4 that is written with nothing around it and digits in every
number. -/
def readBareIpv4? (chars : List Char) : Option Nat :=
  let parts := Text.splitChars '.' chars
  if parts.any (fun part => (part.map Char.toLower) = ['0', 'x']) then none
  else (parts.mapM number?).bind ofNumbers?

/-! ## Addresses of version 6 -/

/-- Reads a byte in decimal without zeros in front. -/
def decimalByte? (part : List Char) : Option Nat := do
  let n ← Text.readDecimal? part
  if n < 256 ∧ (part.length = 1 ∨ part.head? ≠ some '0') then some n else none

/-- Reads four bytes in decimal as two groups. -/
def dottedGroups? (piece : List Char) : Option (List Nat) := do
  match ← (Text.splitChars '.' piece).mapM decimalByte? with
  | [a, b, c, d] => some [256 * a + b, 256 * c + d]
  | _ => none

/-- Reads a group. -/
def group? (piece : List Char) : Option Nat :=
  if 1 ≤ piece.length ∧ piece.length ≤ 4 then ofDigits? 16 piece else none

/-- Reads the pieces between colons, of which the last may be an address of version 4. -/
def piecesOf? : List (List Char) → Option (List Nat)
  | [] => some []
  | [piece] => if '.' ∈ piece then dottedGroups? piece else (group? piece).map ([·])
  | piece :: rest => do
    let group ← group? piece
    let groups ← piecesOf? rest
    some (group :: groups)

/-- Reads groups, of which there may be none. -/
def groupsOf? (chars : List Char) : Option (List Nat) :=
  if chars = [] then some [] else piecesOf? (Text.splitChars ':' chars)

/-- Cuts at the first two colons in a row. -/
def splitDoubleColon? : List Char → Option (List Char × List Char)
  | [] => none
  | ':' :: ':' :: rest => some ([], rest)
  | c :: rest => (splitDoubleColon? rest).map fun (left, right) => (c :: left, right)

/-- Reads an address of version 6, in which two colons stand for groups of zero. -/
def readIpv6? (chars : List Char) : Option (List Nat) := do
  match splitDoubleColon? chars with
  | none => do
    let groups ← groupsOf? chars
    if groups.length = 8 then some groups else none
  | some (left, right) => do
    let before ← groupsOf? left
    let after ← groupsOf? right
    let missing := 8 - before.length - after.length
    if '.' ∈ left ∨ missing = 0 then none
    else some (before ++ List.replicate missing 0 ++ after)

/-! ## Hosts of urls -/

/-- Tests for a character that no name has. -/
def isForbidden (c : Char) : Bool :=
  c.toNat ≤ 0x20 || c.toNat = 0x7f ||
    c ∈ ['#', '/', ':', '<', '>', '?', '@', '[', '\\', ']', '^', '|', '%']

/-- An address of version 6 between brackets. -/
def readBracketed? (chars : List Char) : Option Host :=
  if chars.getLast? = some ']' then (readIpv6? (chars.drop 1).dropLast).map .ipv6 else none

/-- The host of a url that leads to a server. -/
def ofChars? (chars : List Char) : Option Host :=
  if chars.head? = some '[' then readBracketed? chars
  else do
    let decoded ← (Text.Percent.decode (String.ofList chars)).toOption
    let parts ← decoded.toList.mapM fold?
    let folded := parts.flatten
    if folded = [] ∨ folded.any isForbidden ∨ ¬(Text.splitChars '.' folded).all isLabel then none
    else if endsInNumber folded then (readIpv4? folded).map .ipv4
    else some (.name (String.ofList folded))

/-- The host of a url with a scheme that nothing is known about. -/
def ofPlainChars? (chars : List Char) : Option Host :=
  if chars.head? = some '[' then readBracketed? chars
  else if chars.any (· ∈ ['\x00', ' ', '#', '/', ':', '<', '>', '?', '@', '[', '\\', ']', '^', '|'])
  then none
  else
    some (.name (Text.Percent.encodeWith (fun b => 0x20 ≤ b && b < 0x7f) (String.ofList chars)))

/-- The text of an address of version 4. -/
def renderIpv4 (n : Nat) : String :=
  Text.join "." ((Bytes.ofNatLE 4 n).reverse.map fun b => Text.decimal b.toNat)

/-- The text of a host. -/
def render : Host → String
  | name text => text
  | ipv4 n => renderIpv4 n
  | ipv6 groups =>
    "[" ++ Text.join ":" (groups.map fun n => String.ofList (Nat.toDigits 16 n)) ++ "]"

/-! ## Addresses of the machine itself -/

/-- The address of version 4 that leads back to the machine. -/
def loopback4 : Nat := 0x7f000001

/-- The address of version 6 that leads back to the machine. -/
def loopback6 : List Nat := [0, 0, 0, 0, 0, 0, 0, 1]

/-- The address of version 6 without any bit. -/
def zero6 : List Nat := List.replicate 8 0

/-- An address of version 6 that stands for one of version 4 is replaced by it. -/
def unmapped : Host → Host
  | ipv6 [0, 0, 0, 0, 0, 0xffff, high, low] => .ipv4 (high * Bytes.count 2 + low)
  | h => h

/-- The address of the machine itself that a connection to a host arrives at. No address at all
means the machine itself, too. -/
def ownAddress? (h : Host) : Option Host :=
  match h.unmapped with
  | name text => if text = "localhost" then some (.ipv4 loopback4) else none
  | ipv4 n =>
    if n = 0 then some (.ipv4 loopback4)
    else if n / Bytes.count 3 = 127 then some (.ipv4 n)
    else none
  | ipv6 groups => if groups = zero6 ∨ groups = loopback6 then some (.ipv6 loopback6) else none

/-- Tests for an address of version 4 that belongs to a group of machines. -/
def isShared (n : Nat) : Bool := n / Bytes.count 3 / 16 = 14 || n = 0xffffffff

/-- Tests for an address that one can listen at. -/
def isListenable (h : Host) : Bool :=
  h.ownAddress?.isSome || match h with
    | ipv4 n => isShared n
    | _ => false

/-- Tests whether listening at an address covers another one. No address at all covers every
address of its version, and in version 6 those of version 4, too. -/
def covers (listening h : Host) : Bool :=
  listening = h || match listening, h with
    | ipv4 0, ipv4 _ => true
    | ipv6 groups, _ => groups = zero6
    | _, _ => false

end Host

end SealedExchange.Http
