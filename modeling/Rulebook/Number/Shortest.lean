/-
Rulebook.Number.Shortest — the fewest decimal digits that identify a double.

The reals that round to a double form an interval around it; its ends belong
to it when the significand is even.  On the decimal grids of one, two, … up to
seventeen digits, the value has two neighbours, and the first grid with a
neighbour in the interval decides the digits.  Of two such neighbours the
nearer is taken, and an exact tie goes as the caller says.

Everything is exact: a value is a fraction of two natural numbers, and the
ends of its interval are fractions with the same denominator.
-/
import Rulebook.Number.Binary64

namespace Rulebook

/-- Where a decimal goes that lies exactly between two candidates. -/
inductive Tie
  /-- To the candidate further from zero. -/
  | up
  /-- To the candidate with the even last digit. -/
  | even
deriving DecidableEq, Repr

/-- The decimal `significand * 10^exponent`. -/
structure Decimal where
  significand : Nat
  exponent : Int
deriving DecidableEq, Repr

namespace Decimal

/-- The digits of the significand, without leading zeros. -/
def digits (d : Decimal) : List Char := Nat.toDigits 10 d.significand

/-- The exponent of the first digit, as in `1.25e3`. -/
def leadingExponent (d : Decimal) : Int := d.exponent + d.digits.length - 1

/-- Moves trailing zeros of the significand into the exponent, at most `count` of them. -/
def dropZeros : Nat → Decimal → Decimal
  | 0, d => d
  | count + 1, d =>
    if d.significand ≠ 0 ∧ d.significand % 10 = 0 then
      dropZeros count ⟨d.significand / 10, d.exponent + 1⟩
    else d

end Decimal

/-- A positive value between the two ends of the reals that round to it,
all three over one denominator. -/
structure RoundingInterval where
  low : Nat
  value : Nat
  high : Nat
  denominator : Nat
  /-- Whether the ends round to the value as well. -/
  closed : Bool
deriving Repr

namespace RoundingInterval

/-- The interval of a finite double.  The gap below is half the gap above
when the significand is the smallest one that has its hidden bit. -/
def ofBinary64 (x : Binary64) : RoundingInterval :=
  let m := x.significand
  let gap := Nat.pow 2 x.scale
  let below := if m = Nat.pow 2 52 ∧ 0 < x.scale then gap else 2 * gap
  { low := 4 * m * gap - below
    value := 4 * m * gap
    high := 4 * m * gap + 2 * gap
    denominator := 4 * Binary64.unitsPerOne
    closed := m % 2 == 0 }

/-- The `k` with `10^(k-1) ≤ value < 10^k`. -/
def decimalWidth (r : RoundingInterval) : Int :=
  if r.denominator ≤ r.value then (Nat.toDigits 10 (r.value / r.denominator)).length
  else 1 - ((Nat.toDigits 10 ((r.denominator - 1) / r.value)).length : Int)

/-- The power `10^k` as a numerator over a denominator. -/
def powerOfTen (k : Int) : Nat × Nat :=
  if 0 ≤ k then (Nat.pow 10 k.toNat, 1) else (1, Nat.pow 10 (-k).toNat)

/-- Whether `c * 10^k` lies in the interval. -/
def holds (r : RoundingInterval) (c : Nat) (k : Int) : Bool :=
  let (num, den) := powerOfTen k
  let left := c * num * r.denominator
  if r.closed then r.low * den ≤ left && left ≤ r.high * den
  else r.low * den < left && left < r.high * den

/-- The neighbour of the value on the grid of multiples of `10^k` that the rule picks,
if one of the two lies in the interval. -/
def onGrid (tie : Tie) (r : RoundingInterval) (k : Int) : Option Decimal :=
  let (num, den) := powerOfTen k
  let step := num * r.denominator
  let floor := r.value * den / step
  let rest := r.value * den % step
  let roundUp : Bool := match tie with
    | .up => 2 * rest ≥ step
    | .even => 2 * rest > step || (2 * rest == step && floor % 2 == 1)
  match r.holds floor k, r.holds (floor + 1) k with
  | true, true => some ⟨if roundUp then floor + 1 else floor, k⟩
  | true, false => some ⟨floor, k⟩
  | false, true => some ⟨floor + 1, k⟩
  | false, false => none

end RoundingInterval

/-- The decimal with the fewest digits that rounds to `x`, for a finite `x` above or below zero;
seventeen digits always suffice. -/
def Binary64.shortest (tie : Tie) (x : Binary64) : Decimal :=
  let r := RoundingInterval.ofBinary64 x
  let k := r.decimalWidth
  let found := (List.range 17).findSome? fun n => r.onGrid tie (k - (n + 1 : Nat))
  (found.getD ⟨0, 0⟩).dropZeros 1

end Rulebook
