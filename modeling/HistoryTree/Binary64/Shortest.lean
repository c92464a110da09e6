import HistoryTree.Binary64.Basic
import HistoryTree.Text.Decimal

/-!
# The shortest decimal text of a binary fraction

Of all decimals that round back to a number, the text shows one with the fewest digits,
and of those the nearest.  For each count of digits the two neighbours of the number on
that decimal grid are tried; the first grid with a hit wins.
-/

namespace HistoryTree.Magnitude

/-- The exponent `e` with `10 ^ e ≤ m < 10 ^ (e + 1)`, for a positive magnitude. -/
def floorLog10 (m : Magnitude) : Int :=
  let (p, q) := scale m.significand m.exponent
  ((Text.decimal (p * Nat.pow 10 330 / q)).length : Int) - 331

/-- The reals that round to `m` lie between `low` and `high` quarters of its last place, ends
included exactly if the significand is even. -/
def bounds (m : Magnitude) : Nat × Nat :=
  let low := if m.significand = Nat.pow 2 52 ∧ -1074 < m.exponent then 1 else 2
  (4 * m.significand - low, 4 * m.significand + 2)

/-- Whether `d * 10 ^ k` rounds to `m`. -/
def reads (m : Magnitude) (d : Nat) (k : Int) : Bool :=
  let (p, q) := scale 1 (m.exponent - 2)
  let unit := p * Nat.pow 10 (-k).toNat
  let value := d * q * Nat.pow 10 k.toNat
  let (low, high) := m.bounds
  if m.significand % 2 = 0 then low * unit ≤ value ∧ value ≤ high * unit
  else low * unit < value ∧ value < high * unit

/-- The neighbours of `m` on the grid of multiples of `10 ^ k`, the nearer one first; a tie
goes to the even one. -/
def neighbours (m : Magnitude) (k : Int) : List Nat :=
  let (p, q) := scale m.significand m.exponent
  let num := p * Nat.pow 10 (-k).toNat
  let den := q * Nat.pow 10 k.toNat
  let d := num / den
  if roundDiv num den = d then [d, d + 1] else [d + 1, d]

/-- The first multiple of a power of ten that rounds to `m`, from the coarsest grid on. -/
def shortestFrom (m : Magnitude) : (grids : Nat) → (k : Int) → Nat × Int
  | 0, k => ((m.neighbours k).headD 0, k)
  | n + 1, k =>
    match (m.neighbours k).find? (m.reads · k) with
    | some d => (d, k)
    | none => shortestFrom m n (k - 1)

/-- The digits `d` and the exponent `k` of the shortest decimal `d * 10 ^ k`. -/
def shortest (m : Magnitude) : Nat × Int := m.shortestFrom 17 m.floorLog10

end HistoryTree.Magnitude

namespace HistoryTree.Binary64

/-- Digits without the zeros at their end, which move into the exponent. -/
def stripZeros (ds : List Char) (k : Int) : List Char × Int :=
  let kept := (ds.reverse.dropWhile (· = '0')).reverse
  (kept, k + (ds.length - kept.length))

/-- The text of a magnitude: positional from `10 ^ -5` to below `10 ^ 16`, with a fraction always
shown, and in scientific form elsewhere, with a sign and the digits of the exponent. -/
def magnitudeText (m : Magnitude) : List Char :=
  if m.significand = 0 then ['0', '.', '0']
  else
    let (d, k) := m.shortest
    let (ds, k) := stripZeros (Text.decimal d) k
    let e : Int := k + ds.length - 1
    if -5 ≤ e ∧ e ≤ 15 then
      if 0 ≤ k then ds ++ List.replicate k.toNat '0' ++ ['.', '0']
      else if 0 ≤ e then ds.take (e + 1).toNat ++ '.' :: ds.drop (e + 1).toNat
      else ['0', '.'] ++ List.replicate (-e - 1).toNat '0' ++ ds
    else
      let mantissa :=
        match ds with
        | [c] => [c]
        | c :: rest => c :: '.' :: rest
        | [] => []
      mantissa ++ ['e', if e < 0 then '-' else '+'] ++ Text.decimal e.natAbs

/-- The text of a number. -/
def text (x : Binary64) : String :=
  String.ofList (if x.negative then '-' :: magnitudeText x.magnitude
    else magnitudeText x.magnitude)

end HistoryTree.Binary64
