import SealedExchange.Bytes

/-! # UTF-8

Texts as byte strings. Decoding accepts the well-formed encodings of Unicode scalar values only
and otherwise says where the first ill-formed sequence starts.
-/

namespace SealedExchange.Text.Utf8

/-- Where a byte string stops being UTF-8. -/
structure DecodeError where
  /-- The length of the well-formed beginning. -/
  validUpTo : Nat
  /-- The length of the ill-formed sequence, or nothing if the string ends inside a sequence. -/
  badLength : Option Nat
deriving DecidableEq, Repr

/-- The wording of an error. -/
def DecodeError.message (e : DecodeError) : String :=
  match e.badLength with
  | some n => "invalid utf-8 sequence of " ++ toString n ++ " bytes from index " ++
      toString e.validUpTo
  | none => "incomplete utf-8 byte sequence from index " ++ toString e.validUpTo

/-- The encoding of a list of characters. -/
def encodeChars (chars : List Char) : Bytes :=
  chars.flatMap String.utf8EncodeChar

/-- The encoding of a text. -/
def encode (text : String) : Bytes :=
  encodeChars text.toList

/-- Tests for a byte `10xxxxxx`. -/
def isContinuation (b : UInt8) : Bool := 0x80 ≤ b && b < 0xc0

/-- The six payload bits of a continuation byte. -/
def payload (b : UInt8) : Nat := b.toNat % 64

/-- The second bytes that may follow the first byte of a sequence of three. -/
def secondOfThree (first second : UInt8) : Bool :=
  if first = 0xe0 then 0xa0 ≤ second && second < 0xc0
  else if first = 0xed then 0x80 ≤ second && second < 0xa0
  else isContinuation second

/-- The second bytes that may follow the first byte of a sequence of four. -/
def secondOfFour (first second : UInt8) : Bool :=
  if first = 0xf0 then 0x90 ≤ second && second < 0xc0
  else if first = 0xf4 then 0x80 ≤ second && second < 0x90
  else isContinuation second

/-- Decodes a byte string that starts at a given index of the whole. -/
def decodeFrom (start : Nat) : Bytes → Except DecodeError (List Char)
  | [] => .ok []
  | b0 :: rest0 =>
    let bad (n : Nat) : Except DecodeError (List Char) := .error ⟨start, some n⟩
    let cut : Except DecodeError (List Char) := .error ⟨start, none⟩
    if b0 < 0x80 then
      (decodeFrom (start + 1) rest0).map (Char.ofNat b0.toNat :: ·)
    else if b0 < 0xc2 then bad 1
    else if b0 < 0xe0 then
      match rest0 with
      | [] => cut
      | b1 :: rest1 =>
        if isContinuation b1 then
          (decodeFrom (start + 2) rest1).map
            (Char.ofNat (b0.toNat % 32 * 64 + payload b1) :: ·)
        else bad 1
    else if b0 < 0xf0 then
      match rest0 with
      | [] => cut
      | b1 :: rest1 =>
        if secondOfThree b0 b1 then
          match rest1 with
          | [] => cut
          | b2 :: rest2 =>
            if isContinuation b2 then
              (decodeFrom (start + 3) rest2).map
                (Char.ofNat (b0.toNat % 16 * 4096 + payload b1 * 64 + payload b2) :: ·)
            else bad 2
        else bad 1
    else if b0 < 0xf5 then
      match rest0 with
      | [] => cut
      | b1 :: rest1 =>
        if secondOfFour b0 b1 then
          match rest1 with
          | [] => cut
          | b2 :: rest2 =>
            if isContinuation b2 then
              match rest2 with
              | [] => cut
              | b3 :: rest3 =>
                if isContinuation b3 then
                  (decodeFrom (start + 4) rest3).map
                    (Char.ofNat (b0.toNat % 8 * 262144 + payload b1 * 4096 + payload b2 * 64 +
                      payload b3) :: ·)
                else bad 3
            else bad 2
        else bad 1
    else bad 1

/-- Decodes a byte string. -/
def decode (bytes : Bytes) : Except DecodeError String :=
  (decodeFrom 0 bytes).map String.ofList

end SealedExchange.Text.Utf8
