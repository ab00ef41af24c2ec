/-
Rulebook.Proofs.Value.WideIntegers — integers keep their order as values.

An integer is a value of its own where 64 bits hold it, and otherwise the nearest
double.  Two such values are compared exactly, in three ways: two integers, two
doubles, or one of each.  What they are compared by is the `reading` of an integer,
the rational number that its value stands for.  Readings are in order: within 64
bits they are exact, beyond either end they are nearest doubles, and the ends
themselves are doubles, so that no reading crosses an end.  They may meet there, and
beyond: larger integers have readings at least as large.

  §1 Readings — the number that an integer is compared as, and the order of these.
  §2 Types    — the integers of machine types, and what they convert to.
-/
import Rulebook.Entity.Field
import Rulebook.Proofs.Number.NearestDouble
import Rulebook.Proofs.Value.ComparisonTheorems

namespace Rulebook

/-! ## 1. Readings -/

/-- The integer is within the range of 64-bit integers. -/
def FitsInt64 (n : ℤ) : Prop := Int64.minValue.toInt ≤ n ∧ n ≤ Int64.maxValue.toInt

instance (n : ℤ) : Decidable (FitsInt64 n) := inferInstanceAs (Decidable (_ ∧ _))

theorem fitsInt64_iff (n : ℤ) : FitsInt64 n ↔ -2 ^ 63 ≤ n ∧ n < 2 ^ 63 := by
  rw [FitsInt64, Int64.toInt_minValue, Int64.toInt_maxValue, Int.le_sub_one_iff]

/-- The double at the upper end of the range, one past the greatest integer. -/
def Binary64.upperEnd : Binary64 := ⟨0x43e0000000000000⟩

/-- The double at the lower end of the range, the least integer. -/
def Binary64.lowerEnd : Binary64 := ⟨0xc3e0000000000000⟩

theorem Binary64.rational_upperEnd : upperEnd.IsFinite ∧ upperEnd.rational = 2 ^ 63 := by
  have sign : upperEnd.isNegative = false := by decide
  have exponent : upperEnd.exponentField = 1086 := by decide
  have fraction : upperEnd.fractionField = 0 := by decide
  refine ⟨⟨by decide, by decide⟩, ?_⟩
  rw [rational, absolute, sign, exponent, fraction]
  norm_num

theorem Binary64.rational_lowerEnd : lowerEnd.IsFinite ∧ lowerEnd.rational = -2 ^ 63 := by
  have sign : lowerEnd.isNegative = true := by decide
  have exponent : lowerEnd.exponentField = 1086 := by decide
  have fraction : lowerEnd.fractionField = 0 := by decide
  refine ⟨⟨by decide, by decide⟩, ?_⟩
  rw [rational, absolute, sign, exponent, fraction]
  norm_num

namespace Value

/-- The number that the value of an integer stands for: the integer, or the nearest double. -/
def reading (n : ℤ) : ℚ := if FitsInt64 n then n else (Binary64.ofInt n).rational

section Reading

variable {a b n : ℤ}

theorem ofInt_of_fits (fits : FitsInt64 n) : ∃ k : Int64, ofInt n = .int k ∧ k.toInt = n := by
  obtain ⟨low, high⟩ := (fitsInt64_iff n).mp fits
  exact ⟨.ofInt n, if_pos fits, Int64.toInt_ofInt_of_le low high⟩

theorem ofInt_of_not_fits (wide : ¬FitsInt64 n) : ofInt n = .float (Binary64.ofInt n) :=
  if_neg wide

/-- The value of an integer stands where its reading is. -/
theorem standing?_ofInt (width : n.natAbs.log2 < 1023) :
    ∃ units : ℤ, (ofInt n).standing? = some (.number units) ∧
      (units : ℚ) = reading n * Binary64.unitsPerOne := by
  by_cases fits : FitsInt64 n
  · obtain ⟨k, same, value⟩ := ofInt_of_fits fits
    refine ⟨n * Binary64.unitsPerOne, ?_, ?_⟩
    · rw [same, standing?, value]
    · rw [reading, if_pos fits, Int.cast_mul, Int.cast_natCast]
  · refine ⟨(Binary64.ofInt n).units, ?_, ?_⟩
    · rw [ofInt_of_not_fits fits, standing?, (Binary64.isNearest_ofInt width).finite.1]
      rfl
    · rw [reading, if_neg fits, Binary64.units_eq_rational_mul]

/-- The values of integers are compared as their readings are. -/
theorem compare?_ofInt (width : a.natAbs.log2 < 1023) (width' : b.natAbs.log2 < 1023) :
    (ofInt a).compare? (ofInt b) = some (cmp (reading a) (reading b)) := by
  obtain ⟨u, standing, counted⟩ := standing?_ofInt width
  obtain ⟨v, standing', counted'⟩ := standing?_ofInt width'
  rw [compare?_eq_standing, standing, standing', Option.bind_some, Option.bind_some,
    Standing.compare?, ← cmp_eq_compare, ← (Int.cast_strictMono (R := ℚ)).cmp_map_eq, counted,
    counted', cmp_mul_pos_right Binary64.cast_unitsPerOne_pos]

theorem reading_of_fits (fits : FitsInt64 n) : reading n = n := if_pos fits

theorem reading_of_not_fits (wide : ¬FitsInt64 n) : reading n = (Binary64.ofInt n).rational :=
  if_neg wide

/-- Where an integer is, seen from 64 bits. -/
theorem below_or_fits_or_above (n : ℤ) :
    n < -2 ^ 63 ∧ ¬FitsInt64 n ∨ FitsInt64 n ∨ 2 ^ 63 ≤ n ∧ ¬FitsInt64 n := by
  rw [fitsInt64_iff]
  omega

/-- The nearest double of an integer above the range is above it too. -/
theorem le_ofInt (width : n.natAbs.log2 < 1023) (above : 2 ^ 63 ≤ n) :
    2 ^ 63 ≤ (Binary64.ofInt n).rational := by
  obtain ⟨finite, value⟩ := Binary64.rational_upperEnd
  rw [← value]
  refine (Binary64.isNearest_ofInt width).le_of_le finite ?_
  rw [value]
  exact_mod_cast above

/-- That of an integer below the range is no greater than the least integer in it. -/
theorem ofInt_le (width : n.natAbs.log2 < 1023) (below : n < -2 ^ 63) :
    (Binary64.ofInt n).rational ≤ -2 ^ 63 := by
  obtain ⟨finite, value⟩ := Binary64.rational_lowerEnd
  rw [← value]
  refine (Binary64.isNearest_ofInt width).ge_of_ge finite ?_
  rw [value]
  exact_mod_cast below.le

/-- Readings up to the greatest 64-bit integer are less than those above. -/
theorem reading_lt_of_apart (width : a.natAbs.log2 < 1023) (width' : b.natAbs.log2 < 1023)
    (inside : a < 2 ^ 63) (above : 2 ^ 63 ≤ b) : reading a < reading b := by
  have wide : ¬FitsInt64 b := by
    rw [fitsInt64_iff]
    omega
  rw [reading_of_not_fits wide]
  refine lt_of_lt_of_le ?_ (le_ofInt width' above)
  rcases below_or_fits_or_above a with ⟨below, wide⟩ | fits | ⟨outside, -⟩
  · rw [reading_of_not_fits wide]
    exact (ofInt_le width below).trans_lt (by norm_num)
  · rw [reading_of_fits fits]
    exact_mod_cast inside
  · exact absurd inside outside.not_gt

/-- Readings are in order. -/
theorem reading_mono (width : a.natAbs.log2 < 1023) (width' : b.natAbs.log2 < 1023)
    (order : a ≤ b) : reading a ≤ reading b := by
  rcases order.eq_or_lt with rfl | less
  · exact le_rfl
  have rounded (wide : ¬FitsInt64 a) (wide' : ¬FitsInt64 b) : reading a ≤ reading b := by
    rw [reading_of_not_fits wide, reading_of_not_fits wide']
    exact (Binary64.isNearest_ofInt width).mono (Binary64.isNearest_ofInt width')
      (by exact_mod_cast less)
  rcases below_or_fits_or_above b with ⟨below', wide'⟩ | fits' | ⟨above', wide'⟩
  · refine rounded ?_ wide'
    rw [fitsInt64_iff]
    omega
  · rcases below_or_fits_or_above a with ⟨below, wide⟩ | fits | ⟨above, -⟩
    · have least : (-2 ^ 63 : ℚ) ≤ b := by exact_mod_cast ((fitsInt64_iff b).mp fits').1
      rw [reading_of_not_fits wide, reading_of_fits fits']
      exact (ofInt_le width below).trans least
    · rw [reading_of_fits fits, reading_of_fits fits']
      exact_mod_cast less.le
    · have inside := ((fitsInt64_iff b).mp fits').2
      omega
  · rcases lt_or_ge a (2 ^ 63) with inside | above
    · exact (reading_lt_of_apart width width' inside above').le
    · refine rounded ?_ wide'
      rw [fitsInt64_iff]
      omega

/-- Readings differ within 64 bits, and across the upper end of the range. -/
theorem reading_strictMono (width : a.natAbs.log2 < 1023) (width' : b.natAbs.log2 < 1023)
    (less : a < b)
    (apart : FitsInt64 a ∧ FitsInt64 b ∨ a ≤ Int64.maxValue.toInt ∧ Int64.maxValue.toInt < b) :
    reading a < reading b := by
  rcases apart with ⟨fits, fits'⟩ | ⟨inside, above⟩
  · rw [reading_of_fits fits, reading_of_fits fits']
    exact_mod_cast less
  · rw [Int64.toInt_maxValue] at inside above
    exact reading_lt_of_apart width width' (by omega) (by omega)

end Reading

end Value

/-! ## 2. Types -/

/-- Machine integers are far from the end of the doubles. -/
theorem MachineInt.width {t : IntType} (n : MachineInt t) : n.val.natAbs.log2 < 1023 := by
  have range : ∀ t : IntType, -2 ^ 128 ≤ t.low ∧ t.bound ≤ 2 ^ 128 := by
    rintro ⟨signed, width⟩
    cases signed <;> cases width <;> decide
  obtain ⟨low, high⟩ := range t
  have low_le := n.low_le
  have lt_bound := n.lt_bound
  by_cases zero : n.val.natAbs = 0
  · rw [zero]
    decide
  · refine lt_trans ((Nat.log2_lt zero).mpr (?_ : _ < 2 ^ 129)) (by decide)
    omega

section Machine

variable {t u : IntType} (a : MachineInt t) (b : MachineInt u)

/-- An integer that does not fit converts to a finite double on its own side of zero, the nearest
one. -/
theorem MachineInt.toValue_of_not_fits (wide : ¬FitsInt64 a.val) :
    ∃ x, ToValue.toValue a = .float x ∧ x.IsNearest a.val ∧
      (a.val < 0 → x.rational < 0) ∧ (0 < a.val → 0 < x.rational) := by
  refine ⟨_, Value.ofInt_of_not_fits wide, Binary64.isNearest_ofInt a.width, ?_⟩
  rcases Value.below_or_fits_or_above a.val with ⟨below, -⟩ | fits | ⟨above, -⟩
  · have negative := (Value.ofInt_le a.width below).trans_lt (by norm_num : (-2 ^ 63 : ℚ) < 0)
    exact ⟨fun _ => negative, fun positive => by omega⟩
  · exact absurd fits wide
  · have positive := (by norm_num : (0 : ℚ) < 2 ^ 63).trans_le (Value.le_ofInt a.width above)
    exact ⟨fun negative => by omega, fun _ => positive⟩

/-- Integers of any two types are compared by their readings. -/
theorem MachineInt.compare?_toValue :
    (ToValue.toValue a).compare? (ToValue.toValue b)
      = some (cmp (Value.reading a.val) (Value.reading b.val)) :=
  Value.compare?_ofInt a.width b.width

end Machine

end Rulebook
