import SealedExchange.Bytes
import SealedExchange.Http.Host.Folding
import SealedExchange.Text.Basic

/-! # Encoded labels

A label of a host name that has characters beyond ASCII may be written in ASCII: `xn--`, the ASCII
characters with a hyphen behind them, and digits that tell which characters to insert where. The
digits are numbers to the base 36 of which the least significant digit comes first; a threshold for
each digit, which depends on the numbers before, tells where a number ends.
-/

namespace SealedExchange.Http.Host

/-- A label that is being decoded. -/
structure Decoding where
  /-- What has been decoded so far. -/
  text : List Char
  /-- The code point that was inserted last. -/
  point : Nat := 128
  /-- The place after the character that was inserted last. -/
  place : Nat := 0
  /-- The threshold of the first digit of a number depends on this. -/
  bias : Nat := 72
  /-- The value of the digits of a number that have been read. -/
  number : Nat := 0
  /-- The weight of the next digit. -/
  weight : Nat := 1
  /-- The place of the next digit in its number, in multiples of the base. -/
  step : Nat := 36

namespace Decoding

/-- The value of a digit. -/
def digit? (c : Char) : Option Nat :=
  if 'a' ≤ c ∧ c ≤ 'z' then some (c.toNat - 0x61)
  else if c.isDigit then some (c.toNat - 0x30 + 26)
  else none

/-- The threshold of the next digit. -/
def threshold (d : Decoding) : Nat := max 1 (min 26 (d.step - d.bias))

/-- Shrinks a number until it is small, and counts in multiples of the base how often. -/
def shrink : (fuel : Nat) → (number count : Nat) → Nat × Nat
  | 0, number, count => (number, count)
  | fuel + 1, number, count =>
    if 455 < number then shrink fuel (number / 35) (count + 36) else (number, count)

/-- The bias after a number, given how long the text has become. -/
def biasAfter (number length : Nat) (first : Bool) : Nat :=
  let number := if first then number / 700 else number / 2
  let (number, count) := shrink 32 (number + number / length) 0
  count + 36 * number / (number + 38)

/-- Inserts a character when a number is complete. -/
def insert (d : Decoding) (number : Nat) : Option Decoding :=
  let length := d.text.length + 1
  let target := d.place + number
  let point := d.point + target / length
  let place := target % length
  if point.isValidChar then
    some
      { text := d.text.take place ++ Char.ofNat point :: d.text.drop place
        point
        place := place + 1
        bias := biasAfter number length (d.text.all fun c => c.toNat < 0x80) }
  else none

/-- Reads a digit. -/
def read (d : Decoding) (c : Char) : Option Decoding := do
  let digit ← digit? c
  let number := d.number + digit * d.weight
  let t := d.threshold
  if Bytes.count 4 ≤ number then none
  else if digit < t then d.insert number
  else some { d with number, weight := d.weight * (36 - t), step := d.step + 36 }

end Decoding

/-- Decodes what follows the mark of an encoded label. -/
def decodeLabel? (label : List Char) : Option (List Char) := do
  let (digits, start) := match Text.splitOnceChars '-' label.reverse with
    | some (digits, start) => (digits.reverse, start.reverse)
    | none => (label, [])
  let d ← digits.foldlM Decoding.read { text := start }
  if d.weight = 1 ∧ d.step = 36 then some d.text else none

/-- Tests for a label that is not encoded, or that stands for a text which cannot be written without
encoding and whose characters may occur. -/
def isLabel (label : List Char) : Bool :=
  match label with
  | 'x' :: 'n' :: '-' :: '-' :: rest =>
    match decodeLabel? rest with
    | some text => text.any (0x80 ≤ ·.toNat) && text.all fun c => fold? c = some [c]
    | none => false
  | _ => true

end SealedExchange.Http.Host
