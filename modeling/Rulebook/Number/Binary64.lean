/-
Rulebook.Number.Binary64 — double-precision numbers as their 64-bit patterns.

A pattern holds a sign, eleven exponent bits and fifty-two fraction bits.
Every finite pattern stands for a whole number of units of `2^-1074`, so its
exact value is the integer `units`, and order, truncation and comparison with
integers are questions about integers.  The infinite patterns get the unit
counts `±2^2098`, which lie beyond every finite one; only the patterns that
are not numbers have no value.

The module also rounds integers to the nearest double, and widens single
precision, where every value is a double already.
-/

namespace Rulebook

/-- A double-precision number, held as its bit pattern. -/
structure Binary64 where
  /-- Sign, exponent and fraction, from the highest bit down. -/
  bits : UInt64
deriving DecidableEq, Repr, Inhabited

namespace Binary64

/-! ## 1. The fields of a pattern -/

/-- The eleven exponent bits. -/
def exponentField (x : Binary64) : Nat := x.bits.toNat / Nat.pow 2 52 % Nat.pow 2 11

/-- The fifty-two fraction bits. -/
def fractionField (x : Binary64) : Nat := x.bits.toNat % Nat.pow 2 52

/-- Whether the sign bit is set. -/
def isNegative (x : Binary64) : Bool := decide (Nat.pow 2 63 ≤ x.bits.toNat)

/-- The patterns that are not numbers: all exponent bits set and a fraction left. -/
def isNaN (x : Binary64) : Bool := x.exponentField == 2047 && x.fractionField != 0

/-- The two infinities: all exponent bits set and no fraction. -/
def isInfinite (x : Binary64) : Bool := x.exponentField == 2047 && x.fractionField == 0

/-- The pattern with the given fields. -/
def ofFields (negative : Bool) (exponent fraction : Nat) : Binary64 :=
  ⟨UInt64.ofNat ((if negative then Nat.pow 2 63 else 0) + exponent * Nat.pow 2 52 + fraction)⟩

/-! ## 2. The exact value -/

/-- The whole significand: the hidden bit is present unless the exponent field is zero. -/
def significand (x : Binary64) : Nat :=
  if x.exponentField = 0 then x.fractionField else Nat.pow 2 52 + x.fractionField

/-- How many doublings lie between a unit and the last place of the significand. -/
def scale (x : Binary64) : Nat := x.exponentField - 1

/-- The absolute value, counted in units of `2^-1074`. -/
def magnitude (x : Binary64) : Nat := x.significand * Nat.pow 2 x.scale

/-- The value, counted in units of `2^-1074`; both zeros count as `0`. -/
def units (x : Binary64) : Int := if x.isNegative then -x.magnitude else x.magnitude

/-- How many units make one. -/
def unitsPerOne : Nat := Nat.pow 2 1074

/-- The order of two doubles by value; there is none when either is not a number. -/
def compare? (x y : Binary64) : Option Ordering :=
  if x.isNaN || y.isNaN then none else some (compare x.units y.units)

/-- Numeric equality: the zeros are equal, and what is not a number equals nothing. -/
def numericallyEqual (x y : Binary64) : Bool := x.compare? y == some .eq

/-! ## 3. Truncation and comparison with integers -/

/-- The value without its fraction, toward zero. -/
def truncated (x : Binary64) : Int := x.units.tdiv unitsPerOne

/-- What truncation leaves over, in units; it has the sign of the value. -/
def remainder (x : Binary64) : Int := x.units.tmod unitsPerOne

/-- The truncated value as a 64-bit integer; values out of range stop at the nearest end. -/
def toInt64 (x : Binary64) : Int64 := Int64.ofIntClamp x.truncated

/-- One more than the largest 64-bit integer, in units. -/
def int64Bound : Int := (Nat.pow 2 63 * unitsPerOne : Nat)

/-- The order of an integer against a double, without rounding the integer:
doubles beyond the integer range are settled by their size, the others by
their whole part and then by the sign of what truncation leaves over. -/
def compareInt? (n : Int64) (x : Binary64) : Option Ordering :=
  if x.isNaN then none
  else if int64Bound ≤ x.units then some .lt
  else if x.units < -int64Bound then some .gt
  else
    match compare n.toInt x.toInt64.toInt with
    | .eq => some (compare 0 x.remainder)
    | order => some order

/-! ## 4. Rounding integers -/

/-- The quotient `n / 2^k` rounded to the nearest whole number, a half going to the even
neighbour. -/
def roundShift (n k : Nat) : Nat :=
  let step := Nat.pow 2 k
  let whole := n / step
  let rest := n % step
  if 2 * rest > step || (2 * rest == step && whole % 2 == 1) then whole + 1 else whole

/-- The double nearest to `n`, ties to the even significand; infinity past the largest double.

The significand is added to the exponent field with its hidden bit, so a
significand that rounds up to the next power of two carries into the exponent. -/
def ofNat (negative : Bool) (n : Nat) : Binary64 :=
  if n = 0 then ofFields negative 0 0
  else
    let width := n.log2
    let rounded := if width ≤ 52 then n * Nat.pow 2 (52 - width) else roundShift n (width - 52)
    ofFields negative 0 (min ((width + 1022) * Nat.pow 2 52 + rounded) (2047 * Nat.pow 2 52))

/-- The double nearest to an integer. -/
def ofInt (n : Int) : Binary64 := ofNat (n < 0) n.natAbs

/-! ## 5. Single precision -/

/-- The double with the value of a single-precision pattern. -/
def ofBinary32 (bits : UInt32) : Binary64 :=
  let negative := decide (Nat.pow 2 31 ≤ bits.toNat)
  let exponent := bits.toNat / Nat.pow 2 23 % Nat.pow 2 8
  let fraction := bits.toNat % Nat.pow 2 23
  if exponent = 255 then ofFields negative 2047 (fraction * Nat.pow 2 29)
  else if exponent = 0 then
    if fraction = 0 then ofFields negative 0 0
    else
      let width := fraction.log2
      ofFields negative (width + 874) (fraction * Nat.pow 2 (52 - width) - Nat.pow 2 52)
  else ofFields negative (exponent + 896) (fraction * Nat.pow 2 29)

end Binary64
end Rulebook
