/-
Rulebook.Proofs.Number.ExactValue — the comparison of integers with doubles is
the order of the extended rationals.

`Binary64.value?` reads a bit pattern the way the format defines it: a sign, a
power of two and a fraction, as one rational number, with the two infinities
beyond all of them and no value for what is not a number.  The unit `2^-1074`
divides every finite double, so the integer counts that the comparison works
with (`Binary64.units`) are exact.

  §1 The value of a pattern — fields to extended rationals.
  §2 Unit counts            — a count is the value, in units.
  §3 The comparison by cases is one comparison
                            — size, whole part and sign of the leftover amount
                              to comparing unit counts; where the whole part is
                              made a 64-bit integer, nothing is cut off.
  §4 The comparison is that of extended rationals
                            — unit counts compare as the values they count, and
                              whole parts are those of the values.
  §5 Values                 — all of it for the comparison of values, in either
                              operand order.
-/
import Mathlib.Data.Rat.Floor
import Mathlib.Order.Compare
import Mathlib.Order.WithBot
import Mathlib.Tactic.NormNum
import Rulebook.Value.Basic

namespace Rulebook

/-- The rational numbers with an infinity at either end. -/
abbrev ExtendedRational := WithBot (WithTop ℚ)

namespace Binary64

/-! ## 1. The value of a pattern -/

/-- The absolute value of a finite pattern: below exponent one the hidden bit is missing, and the
scale stays that of exponent one. -/
def absolute (x : Binary64) : ℚ :=
  if x.exponentField = 0 then (2 : ℚ) ^ (-1022 : ℤ) * ((x.fractionField : ℚ) / 2 ^ 52)
  else (2 : ℚ) ^ ((x.exponentField : ℤ) - 1023) * (1 + (x.fractionField : ℚ) / 2 ^ 52)

/-- The rational number that a finite pattern stands for. -/
def rational (x : Binary64) : ℚ := if x.isNegative then -x.absolute else x.absolute

/-- The value of a pattern among the extended rationals; what is not a number has none. -/
def value? (x : Binary64) : Option ExtendedRational :=
  if x.isNaN then none
  else if x.isInfinite then some (if x.isNegative then ⊥ else ⊤)
  else some ((x.rational : WithTop ℚ) : ExtendedRational)

theorem value?_eq_none_iff (x : Binary64) : x.value? = none ↔ x.isNaN = true := by
  unfold value?
  cases x.isNaN <;> cases x.isInfinite <;> simp

theorem value?_of_finite {x : Binary64} (number : x.isNaN = false) (finite : x.isInfinite = false) :
    x.value? = some ((x.rational : WithTop ℚ) : ExtendedRational) := by
  simp [value?, number, finite]

theorem isNaN_of_value? {x : Binary64} {v : ExtendedRational} (h : x.value? = some v) :
    x.isNaN = false := by
  by_contra nan
  rw [(value?_eq_none_iff x).mpr (Bool.eq_true_of_not_eq_false nan)] at h
  cases h

/-- A value that is a rational number is the one that the fields stand for. -/
theorem eq_rational_of_value? {x : Binary64} {q : ℚ}
    (h : x.value? = some ((q : WithTop ℚ) : ExtendedRational)) : q = x.rational := by
  have number := isNaN_of_value? h
  cases infinite : x.isInfinite
  · rw [value?_of_finite number infinite] at h
    exact (WithTop.coe_injective (WithBot.coe_injective (Option.some.inj h))).symm
  · simp only [value?, number, infinite, Bool.false_eq_true, if_false, if_true,
      Option.some.injEq] at h
    split at h
    · cases h
    · exact absurd (WithBot.coe_injective h) (WithTop.top_ne_coe)

/-! ## 2. Unit counts -/

theorem cast_two_pow (k : Nat) : ((Nat.pow 2 k : Nat) : ℚ) = (2 : ℚ) ^ (k : ℤ) := by
  rw [Nat.pow_eq, Nat.cast_pow, zpow_natCast]
  rfl

theorem cast_unitsPerOne : (unitsPerOne : ℚ) = (2 : ℚ) ^ ((1074 : Nat) : ℤ) :=
  cast_two_pow 1074

theorem cast_unitsPerOne_pos : (0 : ℚ) < unitsPerOne := by
  rw [cast_unitsPerOne]
  exact zpow_pos two_pos _

theorem unitsPerOne_pos : 0 < unitsPerOne := by exact_mod_cast cast_unitsPerOne_pos

/-- The magnitude counts the absolute value in units. -/
theorem magnitude_eq_absolute_mul (x : Binary64) :
    (x.magnitude : ℚ) = x.absolute * unitsPerOne := by
  have combine : ∀ a b c : ℤ, a + b = c → (2 : ℚ) ^ a * 2 ^ b = 2 ^ c := by
    intro a b c h
    rw [← zpow_add₀ two_ne_zero, h]
  have hidden : (2 : ℚ) ^ (52 : ℤ) = 2 ^ 52 := by norm_num
  have nonzero : (2 : ℚ) ^ 52 ≠ 0 := by norm_num
  rw [cast_unitsPerOne]
  unfold magnitude significand scale absolute
  by_cases h : x.exponentField = 0
  · have shifted := combine (-1022) ((1074 : Nat) : ℤ) 52 (by omega)
    simp only [h, if_true]
    rw [mul_right_comm, shifted, hidden, mul_div_cancel₀ _ nonzero]
    simp
  · have shifted := combine (x.exponentField - 1023) ((1074 : Nat) : ℤ)
      (52 + ((x.exponentField - 1 : Nat) : ℤ)) (by omega)
    simp only [h, if_false]
    rw [mul_right_comm, shifted, zpow_add₀ two_ne_zero, hidden, Nat.cast_mul, cast_two_pow,
      mul_right_comm, mul_add, mul_div_cancel₀ _ nonzero, Nat.cast_add]
    norm_num

/-- The unit count of a finite pattern is its value, in units. -/
theorem units_eq_rational_mul (x : Binary64) : (x.units : ℚ) = x.rational * unitsPerOne := by
  unfold units rational
  cases x.isNegative
  · simp only [Bool.false_eq_true, if_false, Int.cast_natCast, magnitude_eq_absolute_mul]
  · simp only [if_true, Int.cast_neg, Int.cast_natCast, magnitude_eq_absolute_mul, neg_mul]

/-- The counts of the infinities lie beyond the range of 64-bit integers. -/
theorem int64_range_lt_magnitude {x : Binary64} (h : x.isInfinite = true) :
    2 ^ 63 * unitsPerOne < x.magnitude := by
  simp only [isInfinite, Bool.and_eq_true, beq_iff_eq] at h
  have value : x.absolute = (2 : ℚ) ^ (1024 : ℤ) := by simp [absolute, h.1, h.2]
  have beyond : (2 : ℚ) ^ (63 : ℤ) < (2 : ℚ) ^ (1024 : ℤ) :=
    zpow_lt_zpow_right₀ one_lt_two (by norm_num)
  have scaled : (2 : ℚ) ^ (63 : ℤ) * unitsPerOne < x.magnitude := by
    rw [magnitude_eq_absolute_mul, value]
    exact mul_lt_mul_of_pos_right beyond cast_unitsPerOne_pos
  exact_mod_cast scaled

/-! ## 3. The comparison by cases is one comparison -/

theorem int64Bound_eq : int64Bound = 2 ^ 63 * unitsPerOne := by
  rw [int64Bound, Nat.cast_mul]
  rfl

/-- Counting in units keeps the order of integers. -/
theorem mul_unitsPerOne_le {a b : Int} (h : a ≤ b) : a * unitsPerOne ≤ b * unitsPerOne :=
  Int.mul_le_mul_of_nonneg_right h (Int.natCast_nonneg _)

/-- Counting in units sets integers at least one whole apart. -/
theorem add_unitsPerOne_le {a b : Int} (h : a < b) :
    a * unitsPerOne + unitsPerOne ≤ b * unitsPerOne := by
  have step := mul_unitsPerOne_le (show a + 1 ≤ b from h)
  rwa [Int.add_mul, Int.one_mul] at step

/-- Whole part and leftover put a unit count together again, and the leftover is smaller than one
and on the same side of zero. -/
theorem units_split (x : Binary64) :
    x.units = x.truncated * unitsPerOne + x.remainder ∧
      -(unitsPerOne : Int) < x.remainder ∧ x.remainder < unitsPerOne ∧
      (0 ≤ x.units → 0 ≤ x.remainder) ∧ (x.units ≤ 0 → x.remainder ≤ 0) := by
  have one_pos : (0 : Int) < unitsPerOne := by exact_mod_cast unitsPerOne_pos
  refine ⟨?_, Int.lt_tmod_of_pos _ one_pos, Int.tmod_lt_of_pos _ one_pos,
    fun h => Int.tmod_nonneg _ h, ?_⟩
  · rw [truncated, remainder, Int.mul_comm, Int.mul_tdiv_add_tmod]
  · intro h
    have flipped := Int.tmod_nonneg unitsPerOne (Int.neg_nonneg.mpr h)
    rw [Int.neg_tmod] at flipped
    exact Int.neg_nonneg.mp flipped

/-- Where the comparison goes by the whole part: neither bound has settled it. -/
structure GoesByWholePart (x : Binary64) : Prop where
  isNumber : x.isNaN = false
  low : -int64Bound ≤ x.units
  high : x.units < int64Bound

theorem GoesByWholePart.truncated_range {x : Binary64} (h : x.GoesByWholePart) :
    -2 ^ 63 ≤ x.truncated ∧ x.truncated < 2 ^ 63 := by
  have low := h.low
  have high := h.high
  rw [int64Bound_eq] at low high
  obtain ⟨split, lower, upper, nonneg, nonpos⟩ := x.units_split
  have one_pos := unitsPerOne_pos
  constructor
  · by_contra outside
    have step := add_unitsPerOne_le (show x.truncated < -2 ^ 63 by omega)
    omega
  · by_contra outside
    have step := mul_unitsPerOne_le (show 2 ^ 63 ≤ x.truncated by omega)
    omega

/-- The cast of the whole part to a 64-bit integer cuts nothing off. -/
theorem GoesByWholePart.toInt64_eq {x : Binary64} (h : x.GoesByWholePart) :
    x.toInt64.toInt = x.truncated := by
  obtain ⟨low, high⟩ := h.truncated_range
  exact Int64.toInt_ofIntClamp low (Int.le_of_lt_add_one high)

/-- An integer compares with a double as its own count of units does. -/
theorem compareInt?_eq_compare_units {x : Binary64} (n : Int64) (h : x.isNaN = false) :
    compareInt? n x = some (compare (n.toInt * unitsPerOne) x.units) := by
  have least := mul_unitsPerOne_le n.le_toInt
  have greatest := add_unitsPerOne_le n.toInt_lt
  have one_pos := unitsPerOne_pos
  unfold compareInt?
  simp only [h, Bool.false_eq_true, if_false]
  split
  · rename_i above
    rw [int64Bound_eq] at above
    rw [compare_lt_iff_lt.mpr (by omega)]
  · split
    · rename_i below
      rw [int64Bound_eq] at below
      rw [compare_gt_iff_gt.mpr (by omega)]
    · rename_i high low
      have within : x.GoesByWholePart := ⟨h, by omega, by omega⟩
      obtain ⟨split, lower, upper, -, -⟩ := x.units_split
      rw [within.toInt64_eq]
      rcases lt_trichotomy n.toInt x.truncated with less | same | more
      · have apart := add_unitsPerOne_le less
        have below : n.toInt * unitsPerOne < x.units := by omega
        rw [compare_lt_iff_lt.mpr less, compare_lt_iff_lt.mpr below]
      · rw [compare_eq_iff_eq.mpr same, same]
        -- equal whole parts: the sign of the leftover decides
        rcases lt_trichotomy 0 x.remainder with positive | zero | negative
        · rw [compare_lt_iff_lt.mpr positive, compare_lt_iff_lt.mpr (by omega)]
        · rw [compare_eq_iff_eq.mpr zero, compare_eq_iff_eq.mpr (by omega)]
        · rw [compare_gt_iff_gt.mpr negative, compare_gt_iff_gt.mpr (by omega)]
      · have apart := add_unitsPerOne_le more
        have above : x.units < n.toInt * unitsPerOne := by omega
        rw [compare_gt_iff_gt.mpr more, compare_gt_iff_gt.mpr above]

theorem compareInt?_eq_none_iff (n : Int64) (x : Binary64) :
    compareInt? n x = none ↔ x.isNaN = true := by
  cases nan : x.isNaN
  · simp only [compareInt?_eq_compare_units n nan, reduceCtorEq, Bool.false_eq_true]
  · simp only [compareInt?, nan, if_true]

/-! ## 4. The comparison is that of extended rationals -/

/-- Comparing unit counts compares the values that they count. -/
theorem compare_units_eq_cmp_value {x : Binary64} {v : ExtendedRational} (n : Int64)
    (h : x.value? = some v) :
    compare (n.toInt * unitsPerOne) x.units
      = cmp (((n.toInt : ℚ) : WithTop ℚ) : ExtendedRational) v := by
  have number := isNaN_of_value? h
  cases infinite : x.isInfinite
  · rw [value?_of_finite number infinite, Option.some.injEq] at h
    subst h
    rw [← cmp_eq_compare, WithBot.coe_strictMono.cmp_map_eq, WithTop.coe_strictMono.cmp_map_eq,
      ← cmp_mul_pos_right cast_unitsPerOne_pos, ← units_eq_rational_mul,
      ← (Int.cast_strictMono (R := ℚ)).cmp_map_eq, Int.cast_mul, Int.cast_natCast]
  · have least := mul_unitsPerOne_le n.le_toInt
    have greatest := add_unitsPerOne_le n.toInt_lt
    have beyond := int64_range_lt_magnitude infinite
    cases sign : x.isNegative
    · have above : n.toInt * unitsPerOne < x.units := by
        simp only [units, sign, Bool.false_eq_true, if_false]
        omega
      simp only [value?, number, infinite, sign, Bool.false_eq_true, if_false, if_true,
        Option.some.injEq] at h
      rw [compare_lt_iff_lt.mpr above, ← h, eq_comm, cmp_eq_lt_iff]
      exact WithBot.coe_lt_coe.mpr (WithTop.coe_lt_top _)
    · have below : x.units < n.toInt * unitsPerOne := by
        simp only [units, sign, if_true]
        omega
      simp only [value?, number, infinite, sign, Bool.false_eq_true, if_false, if_true,
        Option.some.injEq] at h
      rw [compare_gt_iff_gt.mpr below, ← h, eq_comm, cmp_eq_gt_iff]
      exact WithBot.bot_lt_coe _

/-- The rational number without its fraction, toward zero. -/
def towardZero (q : ℚ) : ℤ := if 0 ≤ q then ⌊q⌋ else ⌈q⌉

/-- Truncation of unit counts is truncation of the value. -/
theorem truncated_eq_towardZero (x : Binary64) : x.truncated = towardZero x.rational := by
  have one_pos := cast_unitsPerOne_pos
  have quotient : x.rational = x.units / unitsPerOne := by
    rw [units_eq_rational_mul, mul_div_cancel_right₀ _ one_pos.ne']
  have same_sign : 0 ≤ x.rational ↔ 0 ≤ x.units := by
    rw [← Int.cast_nonneg_iff (R := ℚ), units_eq_rational_mul, mul_nonneg_iff_of_pos_right one_pos]
  unfold truncated towardZero
  by_cases h : 0 ≤ x.units
  · rw [if_pos (same_sign.mpr h), quotient, Rat.floor_intCast_div_natCast,
      Int.tdiv_eq_ediv_of_nonneg h]
  · have flipped : 0 ≤ -x.units := by omega
    rw [if_neg (mt same_sign.mp h), quotient, ← neg_neg (x.units / unitsPerOne : ℚ), Int.ceil_neg,
      ← neg_div, ← Int.cast_neg, Rat.floor_intCast_div_natCast,
      ← Int.tdiv_eq_ediv_of_nonneg flipped, Int.neg_tdiv, neg_neg]

/-- The numbers within the range of 64-bit integers, and no other patterns, are compared by their
whole parts. -/
theorem goesByWholePart_iff (x : Binary64) :
    x.GoesByWholePart ↔
      ∃ q : ℚ, x.value? = some ((q : WithTop ℚ) : ExtendedRational) ∧ -2 ^ 63 ≤ q ∧ q < 2 ^ 63 := by
  have low : -int64Bound ≤ x.units ↔ -2 ^ 63 ≤ x.rational := by
    rw [int64Bound_eq, ← Int.cast_le (R := ℚ), units_eq_rational_mul]
    push_cast
    rw [← neg_mul, mul_le_mul_iff_left₀ cast_unitsPerOne_pos]
    norm_num
  have high : x.units < int64Bound ↔ x.rational < 2 ^ 63 := by
    rw [int64Bound_eq, ← Int.cast_lt (R := ℚ), units_eq_rational_mul]
    push_cast
    rw [mul_lt_mul_iff_left₀ cast_unitsPerOne_pos]
    norm_num
  constructor
  · intro h
    refine ⟨x.rational, ?_, low.mp h.low, high.mp h.high⟩
    apply value?_of_finite h.isNumber
    by_contra infinite
    have beyond := int64_range_lt_magnitude (Bool.eq_true_of_not_eq_false infinite)
    have range := And.intro h.low h.high
    rw [int64Bound_eq, units] at range
    split at range <;> omega
  · rintro ⟨q, value, least, greatest⟩
    have same := eq_rational_of_value? value
    subst same
    exact ⟨isNaN_of_value? value, low.mpr least, high.mpr greatest⟩

end Binary64

/-! ## 5. Values -/

/-- The order of an integer and a double is that of the numbers they stand for, whichever comes
first, and none exactly where the double is not a number; where the comparison casts the whole part
of the double to a 64-bit integer, the double lies within the range of these, and the cast is
exact. -/
theorem compare_int_float_exact (n : Int64) (x : Binary64) :
    (((Value.int n).compare? (.float x) = none ↔ x.isNaN = true) ∧
      (Value.int n).compare? (.float x)
        = x.value?.map (cmp (((n.toInt : ℚ) : WithTop ℚ) : ExtendedRational))) ∧
    (Value.float x).compare? (.int n)
      = ((Value.int n).compare? (.float x)).map Ordering.swap ∧
    (x.GoesByWholePart ↔
      ∃ q : ℚ, x.value? = some ((q : WithTop ℚ) : ExtendedRational) ∧ -2 ^ 63 ≤ q ∧ q < 2 ^ 63) ∧
    (x.GoesByWholePart →
      x.truncated = Binary64.towardZero x.rational ∧
        (-2 ^ 63 ≤ x.truncated ∧ x.truncated < 2 ^ 63) ∧ x.toInt64.toInt = x.truncated) := by
  refine ⟨⟨Binary64.compareInt?_eq_none_iff n x, ?_⟩, rfl, x.goesByWholePart_iff, ?_⟩
  · rw [Value.compare?]
    cases value : x.value? with
    | none => exact (Binary64.compareInt?_eq_none_iff n x).mpr ((x.value?_eq_none_iff).mp value)
    | some v =>
      rw [Binary64.compareInt?_eq_compare_units n (Binary64.isNaN_of_value? value),
        Binary64.compare_units_eq_cmp_value n value, Option.map_some]
  · intro h
    exact ⟨x.truncated_eq_towardZero, h.truncated_range, h.toInt64_eq⟩

end Rulebook
