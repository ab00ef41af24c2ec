/-
Rulebook.Number.Layout — how the digits of a double are written down.

Which digits a number has is settled in `Rulebook.Number.Shortest`; a `Layout`
settles the rest: when the point is written in place, whether whole numbers
keep a fraction, how the other numbers carry their exponent, and what stands
for the patterns that are not finite.
-/
import Rulebook.Number.Shortest

namespace Rulebook

/-- The decisions of one written form of doubles. -/
structure Layout where
  /-- Which of two equally near decimals is taken. -/
  tie : Tie
  /-- The exponents of the first digit for which the point is written in place. -/
  inPlace : Int → Bool
  /-- What follows a whole number written in place. -/
  wholeEnding : String
  /-- The texts for what is not a number, and for the two infinities. -/
  notANumber : String
  infinity : String
  negativeInfinity : String

namespace Layout

/-- Digits with the point in place: zeros fill the gap between the digits and the point. -/
def point (layout : Layout) (d : Decimal) : String :=
  let digits := d.digits
  if 0 ≤ d.exponent then
    String.ofList (digits ++ List.replicate d.exponent.toNat '0') ++ layout.wholeEnding
  else
    let places := (-d.exponent).toNat
    let padded := List.replicate (places + 1 - digits.length) '0' ++ digits
    let whole := padded.length - places
    String.ofList (padded.take whole ++ '.' :: padded.drop whole)

/-- One digit, the others after the point, and a signed exponent. -/
def scientific (d : Decimal) : String :=
  let fraction := d.digits.drop 1
  let mantissa := d.digits.take 1 ++ (if fraction.isEmpty then [] else '.' :: fraction)
  let e := d.leadingExponent
  String.ofList mantissa ++ "e" ++ (if e < 0 then "-" else "+") ++ toString e.natAbs

/-- The written form of a double. -/
def render (layout : Layout) (x : Binary64) : String :=
  let sign := if x.isNegative then "-" else ""
  if x.isNaN then layout.notANumber
  else if x.isInfinite then
    if x.isNegative then layout.negativeInfinity else layout.infinity
  else if x.magnitude = 0 then sign ++ "0" ++ layout.wholeEnding
  else
    let d := x.shortest layout.tie
    sign ++ if layout.inPlace d.leadingExponent then layout.point d else scientific d

end Layout
end Rulebook
