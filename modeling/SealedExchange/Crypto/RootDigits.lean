/-! # Binary digits of roots

The constants of the SHA-2 hashes are the first binary digits of the fractional parts of the
square and cube roots of the smallest primes. They are computed here from that definition.
-/

namespace SealedExchange.Crypto

/-- The largest number below `2 ^ width` whose `k`-th power is at most `n`. -/
def floorRoot (k width n : Nat) : Nat :=
  (List.range width).foldr (fun i root =>
    if Nat.pow (root + Nat.pow 2 i) k ≤ n then root + Nat.pow 2 i else root) 0

/-- The first 64 binary digits after the point of the `k`-th root of a number below `2 ^ (8 k)`. -/
def rootDigits (k n : Nat) : UInt64 :=
  UInt64.ofNat (floorRoot k 72 (n * Nat.pow 2 (64 * k)))

/-- The primes below a bound, in increasing order. -/
def primesBelow (bound : Nat) : List Nat :=
  (List.range bound).filter fun n => 2 ≤ n ∧ (List.range n).all fun d => d < 2 ∨ n % d ≠ 0

end SealedExchange.Crypto
