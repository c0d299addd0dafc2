import SealedExchange.Text.Basic

/-! # The shortest decimal of a binary fraction

A finite binary floating-point number stands for the interval of reals that round to it. Among the
decimals in that interval the ones with the fewest digits are the shortest, and of these the one
nearest to the number is taken, the even one of two that are equally near. `Style` then says how
the digits are laid out.
-/

namespace SealedExchange.Decimal

/-- The sign, the significand and the exponent of two of a number `± significand * 2 ^ exponent`. -/
structure Binary where
  negative : Bool
  significand : Nat
  exponent : Int

/-- Takes a double-precision number apart. -/
def Binary.ofFloat (x : Float) : Binary :=
  let bits := x.toBits.toNat
  let fraction : Nat := bits % Nat.pow 2 52
  let biased : Nat := bits / Nat.pow 2 52 % 2048
  let negative : Bool := bits / Nat.pow 2 63 = 1
  if biased = 0 then ⟨negative, fraction, -1074⟩
  else ⟨negative, fraction + Nat.pow 2 52, (biased : Int) - 1075⟩

/-- A quotient of natural numbers. -/
structure Ratio where
  num : Nat
  den : Nat

/-- The number `n * 2 ^ e`. -/
def Ratio.scaled (n : Nat) (e : Int) : Ratio :=
  if e < 0 then ⟨n, Nat.pow 2 (-e).toNat⟩ else ⟨n * Nat.pow 2 e.toNat, 1⟩

/-- The order of quotients. -/
def Ratio.le (a b : Ratio) : Bool := a.num * b.den ≤ b.num * a.den

/-- The number `d * 10 ^ k`. -/
def Ratio.decimal (d : Nat) (k : Int) : Ratio :=
  if k < 0 then ⟨d, Nat.pow 10 (-k).toNat⟩ else ⟨d * Nat.pow 10 k.toNat, 1⟩

/-- The largest `d` with `d * 10 ^ k ≤ r`. -/
def Ratio.floorAt (r : Ratio) (k : Int) : Nat :=
  if k < 0 then r.num * Nat.pow 10 (-k).toNat / r.den else r.num / (r.den * Nat.pow 10 k.toNat)

/-- The distance between two quotients, over the product of their denominators. -/
def Ratio.gap (a b : Ratio) : Nat :=
  max (a.num * b.den - b.num * a.den) (b.num * a.den - a.num * b.den)

/-- The least power of ten above a positive quotient below `10 ^ 310` and above `10 ^ -330`. -/
def Ratio.magnitude (r : Ratio) : Int :=
  let place := (List.range 640).find? fun (i : Nat) => !(Ratio.decimal 1 ((i : Int) - 330)).le r
  (place.getD 640 : Nat) - 330

/-- The shortest decimal of a positive number: its digits as a number, and their exponent of ten. -/
def shortest (b : Binary) : Nat × Int :=
  let m := b.significand
  let value := Ratio.scaled m b.exponent
  let low :=
    -- Below a power of two the neighbour is only half as far away.
    if m = Nat.pow 2 52 then Ratio.scaled (4 * m - 1) (b.exponent - 2)
    else Ratio.scaled (2 * m - 1) (b.exponent - 1)
  let high := Ratio.scaled (2 * m + 1) (b.exponent - 1)
  let inside (r : Ratio) : Bool :=
    -- A tie goes to the even significand, which therefore owns both ends.
    if m % 2 = 0 then low.le r && r.le high else !r.le low && !high.le r
  let top := value.magnitude
  let candidate (digits : Nat) : Option (Nat × Int) :=
    let k := top - digits
    let below := value.floorAt k
    let above := below + 1
    let lowHit := inside (Ratio.decimal below k)
    let highHit := inside (Ratio.decimal above k)
    if lowHit && highHit then
      -- Both neighbours read back: the nearer one counts, the even one if neither is nearer.
      let r0 := Ratio.decimal below k
      let r1 := Ratio.decimal above k
      let gap0 := value.gap r0 * r1.den
      let gap1 := value.gap r1 * r0.den
      if gap0 < gap1 ∨ (gap0 = gap1 ∧ below % 2 = 0) then some (below, k) else some (above, k)
    else if lowHit then some (below, k)
    else if highHit then some (above, k)
    else none
  ((List.range 17).findSome? fun i => candidate (i + 1)).getD (value.floorAt (top - 17), top - 17)

/-- Moves zeros at the end of the digits into the exponent. -/
def dropZeros : (fuel : Nat) → Nat × Int → Nat × Int
  | 0, d => d
  | fuel + 1, (d, k) => if d ≠ 0 ∧ d % 10 = 0 then dropZeros fuel (d / 10, k + 1) else (d, k)

/-- Where a number is written with a power of ten instead of all its places. -/
structure Style where
  /-- The most places before the point. -/
  maxPlaces : Int
  /-- The most zeros after the point, before the first digit. -/
  maxZeros : Int
  /-- Whether a power of ten that is not negative has a sign. -/
  signed : Bool

/-- The text of a number: with a point when its places fit the style, with an exponent
otherwise. -/
def Style.render (style : Style) (x : Float) : String :=
  let b := Binary.ofFloat x
  let sign := if b.negative then "-" else ""
  if x.isNaN then "NaN"
  else if x.isInf then sign ++ "inf"
  else if b.significand = 0 then sign ++ "0.0"
  else
    let (d, k) := dropZeros 20 (shortest b)
    let digits := Nat.toDigits 10 d
    let length : Int := digits.length
    let point := length + k
    let zeros (n : Int) : List Char := List.replicate n.toNat '0'
    sign ++ String.ofList (
      if 0 ≤ k ∧ point ≤ style.maxPlaces then digits ++ zeros k ++ ['.', '0']
      else if 0 < point ∧ point ≤ style.maxPlaces then
        digits.take point.toNat ++ '.' :: digits.drop point.toNat
      else if -style.maxZeros ≤ point ∧ point ≤ 0 then ['0', '.'] ++ zeros (-point) ++ digits
      else
        let mantissa := match digits with
          | [d] => [d]
          | d :: rest => d :: '.' :: rest
          | [] => []
        let sign := if style.signed && 0 < point then ['+'] else []
        mantissa ++ 'e' :: sign ++ (Text.decimalInt (point - 1)).toList)

end SealedExchange.Decimal
