import SealedExchange.Bytes

/-! # X25519 key agreement

The Diffie-Hellman function on the Montgomery curve `y² = x³ + 486662 x² + x` over the field of
`2 ^ 255 - 19` elements, on the first coordinate alone. Field elements are numbers below the
modulus.
-/

namespace SealedExchange.Crypto.Curve25519

/-- The number of field elements. -/
def modulus : Nat := Nat.pow 2 255 - 19

/-- Subtraction in the field. -/
@[inline] def sub (a b : Nat) : Nat := (a + (modulus - b)) % modulus

/-- Addition in the field. -/
@[inline] def add (a b : Nat) : Nat := (a + b) % modulus

/-- Multiplication in the field. -/
@[inline] def mul (a b : Nat) : Nat := a * b % modulus

/-- The power of a field element whose exponent is given by its binary digits, most significant
first. -/
def power (a : Nat) (digits : List Bool) : Nat :=
  digits.foldl
    (fun acc digit => let square := mul acc acc; if digit then mul square a else square) 1

/-- The binary digits of a number below `2 ^ 255`, most significant first. -/
def digits (n : Nat) : List Bool :=
  (List.range 255).map fun i => n.testBit (254 - i)

/-- The inverse of a field element, with zero for zero. -/
def inverse (a : Nat) : Nat := power a (digits (modulus - 2))

/-- Two points that differ by the base point, in projective coordinates. -/
structure Ladder where
  x2 : Nat
  z2 : Nat
  x3 : Nat
  z3 : Nat

/-- Doubles the first point and adds the second one to it, for base coordinate `u`. -/
def Ladder.step (u : Nat) (p : Ladder) : Ladder :=
  let a := add p.x2 p.z2
  let aa := mul a a
  let b := sub p.x2 p.z2
  let bb := mul b b
  let e := sub aa bb
  let c := add p.x3 p.z3
  let d := sub p.x3 p.z3
  let da := mul d a
  let cb := mul c b
  let sum := add da cb
  let difference := sub da cb
  -- 121665 is a quarter of the coefficient 486662 less two.
  ⟨mul aa bb, mul e (add aa (mul 121665 e)), mul sum sum, mul u (mul difference difference)⟩

/-- Exchanges the two points. -/
def Ladder.swap (p : Ladder) : Ladder := ⟨p.x3, p.z3, p.x2, p.z2⟩

/-- The multiple of the point with coordinate `u` by a number below `2 ^ 255`. -/
def scale (n u : Nat) : Nat :=
  let p := (digits n).foldl (fun p digit =>
    if digit then ((p.swap).step u).swap else p.step u) (⟨1, 0, u, 1⟩ : Ladder)
  mul p.x2 (inverse p.z2)

/-- The number of a secret: three low bits and the top bit are cleared and bit 254 is set. -/
def clamp (secret : Bytes) : Nat :=
  let n := secret.toNatLE % Nat.pow 2 254
  Nat.pow 2 254 + (n - n % 8)

/-- The coordinate in 32 bytes, of which the top bit is ignored. -/
def coordinate (point : Bytes) : Nat :=
  point.toNatLE % Nat.pow 2 255 % modulus

/-- The shared secret of a secret and another party's public key. -/
def agree (secret point : Bytes) : Bytes :=
  Bytes.ofNatLE 32 (scale (clamp secret) (coordinate point))

/-- The public key of a secret. -/
def publicKey (secret : Bytes) : Bytes :=
  Bytes.ofNatLE 32 (scale (clamp secret) 9)

@[simp] theorem length_agree (secret point : Bytes) : (agree secret point).length = 32 := by
  simp [agree]

@[simp] theorem length_publicKey (secret : Bytes) : (publicKey secret).length = 32 := by
  simp [publicKey]

end SealedExchange.Crypto.Curve25519
