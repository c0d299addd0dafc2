import SealedExchange.Http.Header

/-! # Bodies in chunks

A body of unknown length comes in chunks. Before each stands a line with its length in hexadecimal
and perhaps an extension, behind it an empty line. A chunk without bytes is the last one; header
lines may follow it, and an empty line ends the body. The lines end in a carriage return and a line
feed, not in a line feed alone.
-/

namespace SealedExchange.Http.Chunks

/-- The bytes of all extensions together are fewer than this. -/
def extensionLimit : Nat := 16384

/-- The bytes of the header lines behind the last chunk are fewer than this. -/
def trailerLimit : Nat := 16384

/-- Fewer header lines than this stand behind the last chunk. -/
def trailerCount : Nat := 100

/-- What follows a line break. -/
def afterBreak? : Bytes → Option Bytes
  | 0x0d :: 0x0a :: rest => some rest
  | _ => none

/-- The number of some hexadecimal digits, if it has at most 64 bits. -/
def length? (digits : Bytes) : Option Nat :=
  let n := digits.foldl (fun n b => 16 * n + ((Text.Percent.hexValue? b).getD 0).toNat) 0
  if digits ≠ [] ∧ n < Bytes.count 8 then some n else none

/-- Tests for a byte that is a hexadecimal digit. -/
def isDigit (b : UInt8) : Bool := (Text.Percent.hexValue? b).isSome

/-- Tests for a byte of a line. -/
def isInLine (b : UInt8) : Bool := b ≠ 0x0d && b ≠ 0x0a

/-- The line before a chunk. -/
structure Opening where
  /-- The length of the chunk. -/
  length : Nat
  /-- The number of bytes in the extension. -/
  extension : Nat

/-- Reads the line before a chunk, and hands back what follows. -/
def opening? (bytes : Bytes) : Option (Opening × Bytes) := do
  let length ← length? (bytes.takeWhile isDigit)
  match (bytes.dropWhile isDigit).dropWhile Header.isBlank with
  | 0x3b :: rest => do
    let after ← afterBreak? (rest.dropWhile isInLine)
    some (⟨length, (rest.takeWhile isInLine).length⟩, after)
  | rest => do
    let after ← afterBreak? rest
    some (⟨length, 0⟩, after)

/-- Reads the header lines behind the last chunk up to the empty line: the lines and their number. A
line goes on until a carriage return. -/
def trailer? : (fuel : Nat) → Bytes → Option (Bytes × Nat)
  | 0, _ => none
  | _ + 1, [] => none
  | fuel + 1, b :: rest =>
    if b = 0x0d then (afterBreak? (b :: rest)).map fun _ => ([], 0)
    else do
      let line := b :: rest.takeWhile (· ≠ 0x0d)
      let after ← afterBreak? (rest.dropWhile (· ≠ 0x0d))
      let (lines, count) ← trailer? fuel after
      some (line ++ [0x0d, 0x0a] ++ lines, count + 1)

/-- Tests for the end of a body behind its last chunk. -/
def isEnded (bytes : Bytes) : Bool :=
  match trailer? (bytes.length + 1) bytes with
  | none => false
  | some (_, 0) => true
  | some (lines, count) =>
    let block := lines ++ [0x0d, 0x0a]
    count < trailerCount && block.length < trailerLimit &&
      match Header.readAll? block with
      | some (headers, _) => headers.length ≤ count
      | none => false

/-- Reads the body that chunks make up, if it is complete. -/
def body? : (fuel : Nat) → (extensions : Nat) → Bytes → Option Bytes
  | 0, _, _ => none
  | fuel + 1, extensions, bytes => do
    let (opening, rest) ← opening? bytes
    let extensions := extensions + opening.extension
    if extensionLimit ≤ extensions then none
    else if opening.length = 0 then if isEnded rest then some [] else none
    else do
      let after ← afterBreak? (rest.drop opening.length)
      let more ← body? fuel extensions after
      some (rest.take opening.length ++ more)

/-- The body in some bytes. -/
def read? (bytes : Bytes) : Option Bytes := body? (bytes.length + 1) 0 bytes

end SealedExchange.Http.Chunks
