/-!
# Binary fractions of 53 bits

The finite numbers of the 64-bit floating-point format, as a sign and a magnitude
`significand * 2 ^ exponent`, and rounding to the nearest of them (a tie goes to the even
significand).  `ofParts` computes `significand * 10 ^ exponent` with one rounding for each
multiplication or division by a power of ten, so its result may differ from the nearest
number in the last place.
-/

namespace HistoryTree

/-- The magnitude `significand * 2 ^ exponent`, with a significand below `2 ^ 53` that is at
least `2 ^ 52` unless the exponent is the least one, `-1074`. -/
structure Magnitude where
  significand : Nat
  exponent : Int
  deriving DecidableEq, Repr

/-- A signed magnitude; zero has two signs. -/
structure Binary64 where
  negative : Bool
  magnitude : Magnitude
  deriving DecidableEq, Repr

namespace Magnitude

/-- The magnitude of zero. -/
def zero : Magnitude := ⟨0, -1074⟩

/-- `num / den` rounded to a whole number; a half goes to the even neighbour. -/
def roundDiv (num den : Nat) : Nat :=
  let q := num / den
  let twice := 2 * (num % den)
  if twice < den then q else if den < twice then q + 1 else if q % 2 = 0 then q else q + 1

/-- `n * 2 ^ e` as a fraction. -/
def scale (n : Nat) (e : Int) : Nat × Nat := (n * Nat.pow 2 e.toNat, Nat.pow 2 (-e).toNat)

/-- The exponent `e` with `2 ^ e ≤ num / den < 2 ^ (e + 1)`, for a positive fraction. -/
def floorLog2 (num den : Nat) : Int :=
  let e : Int := (num.log2 : Int) - den.log2
  let (p, q) := scale den e
  if num * q < p then e - 1 else e

/-- The magnitude nearest to `num / den`, or none beyond the largest one. -/
def nearest (num den : Nat) : Option Magnitude :=
  if num = 0 then some zero
  else
    let e := max (floorLog2 num den - 52) (-1074)
    let (p, q) := scale num (-e)
    let m := roundDiv p (den * q)
    let r : Magnitude := if m = Nat.pow 2 53 then ⟨Nat.pow 2 52, e + 1⟩ else ⟨m, e⟩
    if r.exponent ≤ 971 then some r else none

/-- The magnitude nearest to a power of ten that has one. -/
def powerOfTen (n : Nat) : Magnitude := (nearest (Nat.pow 10 n) 1).getD zero

/-- The rounded product. -/
def mul (a b : Magnitude) : Option Magnitude :=
  let (p, q) := scale (a.significand * b.significand) (a.exponent + b.exponent)
  nearest p q

/-- The rounded quotient; the divisor is not zero. -/
def div (a b : Magnitude) : Option Magnitude :=
  let (p, q) := scale a.significand (a.exponent - b.exponent)
  nearest p (b.significand * q)

/-- `a / 10 ^ n`, dividing by `10 ^ 308` as long as the divisor is larger than that. -/
def divPowerOfTen (a : Magnitude) (n : Nat) : Option Magnitude :=
  if n ≤ 308 then a.div (powerOfTen n)
  else
    match a.div (powerOfTen 308) with
    | some b => divPowerOfTen b (n - 308)
    | none => none
termination_by n

/-- `significand * 10 ^ exponent`, or none beyond the largest magnitude.  A significand of zero,
and any significand divided by `10 ^ 700` or more, gives zero. -/
def ofParts (significand : Nat) (exponent : Int) : Option Magnitude :=
  if significand = 0 then some zero
  else if exponent < 0 then
    if exponent < -700 then some zero
    else (nearest significand 1).bind (·.divPowerOfTen exponent.natAbs)
  else if 308 < exponent then none
  else (nearest significand 1).bind (·.mul (powerOfTen exponent.toNat))

end Magnitude

end HistoryTree
