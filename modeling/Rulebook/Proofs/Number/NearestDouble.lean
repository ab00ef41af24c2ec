/-
Rulebook.Proofs.Number.NearestDouble — integers are rounded to the nearest double.

An integer that 64 bits do not hold is read as a double.  `Binary64.IsNearest` says
which one, by the values of doubles alone: none is closer, and if another one is as
close, the last bit of this one is clear.  Rounding is proved to meet that, in units
of `2^-1074`, where doubles and integers alike are whole: the significand is one of
the two next to the integer, on a grid that no double from the integer's own binade
upwards leaves.

What is nearest is in order: larger integers never have smaller doubles, and an
integer beyond a double has its nearest double there or beyond.

  §1 Nearness     — the nearest double, and the order of nearest doubles.
  §2 Significands — rounding to a whole number of grid steps.
  §3 Patterns     — the pattern that is put together, and its value.
  §4 Rounding     — no double is nearer.
-/
import Mathlib.Tactic.Linarith
import Rulebook.Proofs.Number.ExactValue

namespace Rulebook.Binary64

/-! ## 1. Nearness -/

/-- The pattern stands for a rational number. -/
def IsFinite (x : Binary64) : Prop := x.isNaN = false ∧ x.isInfinite = false

/-- The double is a number, no double is closer to `q`, and if another one is as close, the last bit
of this one is clear. -/
structure IsNearest (x : Binary64) (q : ℚ) : Prop where
  finite : x.IsFinite
  closest : ∀ y : Binary64, y.IsFinite → |x.rational - q| ≤ |y.rational - q|
  even : ∀ y : Binary64, y.IsFinite → |y.rational - q| = |x.rational - q| →
    y.rational = x.rational ∨ x.fractionField % 2 = 0

section Midpoint

variable {x y q : ℚ}

/-- What is closer to the larger of two numbers lies at their midpoint or beyond. -/
theorem add_le_of_closer (less : y < x) (closer : |x - q| ≤ |y - q|) : x + y ≤ 2 * q := by
  have squares : (x - q) ^ 2 ≤ (y - q) ^ 2 := sq_le_sq.mpr closer
  nlinarith

theorem le_add_of_closer (less : x < y) (closer : |x - q| ≤ |y - q|) : 2 * q ≤ x + y := by
  have squares : (x - q) ^ 2 ≤ (y - q) ^ 2 := sq_le_sq.mpr closer
  nlinarith

end Midpoint

namespace IsNearest

variable {x y z : Binary64} {q r : ℚ}

/-- The nearest doubles are in order. -/
theorem mono (nearest : x.IsNearest q) (nearest' : y.IsNearest r) (less : q < r) :
    x.rational ≤ y.rational := by
  by_contra above
  have order : y.rational < x.rational := lt_of_not_ge above
  have low := add_le_of_closer order (nearest.closest y nearest'.finite)
  have high := le_add_of_closer order (nearest'.closest x nearest.finite)
  linarith

/-- A number beyond a double has its nearest double there or beyond. -/
theorem le_of_le (nearest : x.IsNearest q) (finite : z.IsFinite) (beyond : z.rational ≤ q) :
    z.rational ≤ x.rational := by
  by_contra short
  have closer := nearest.closest z finite
  rw [abs_sub_comm, abs_sub_comm z.rational, abs_of_nonneg (by linarith),
    abs_of_nonneg (by linarith)] at closer
  linarith

theorem ge_of_ge (nearest : x.IsNearest q) (finite : z.IsFinite) (beyond : q ≤ z.rational) :
    x.rational ≤ z.rational := by
  by_contra short
  have closer := nearest.closest z finite
  rw [abs_of_nonneg (by linarith), abs_of_nonneg (by linarith)] at closer
  linarith

end IsNearest

/-! ## 2. Significands -/

section Grid

variable {m a v step : ℤ}

/-- A whole number of steps that is off by half a step at most is as near as any other. -/
theorem closest_of_half (positive : 0 < step) (half : 2 * |m * step - a| ≤ step) (j : ℤ) :
    |m * step - a| ≤ |j * step - a| ∧
      (|j * step - a| = |m * step - a| → j = m ∨ 2 * |m * step - a| = step) := by
  by_cases same : j = m
  · subst same
    exact ⟨le_rfl, fun _ => .inl rfl⟩
  · -- another number of steps is a whole step away
    have apart : step ≤ |j * step - m * step| := by
      rw [← sub_mul, abs_mul, abs_of_pos positive]
      exact le_mul_of_one_le_left positive.le (Int.one_le_abs (sub_ne_zero.mpr same))
    have triangle := abs_sub_le (j * step) a (m * step)
    rw [abs_sub_comm a] at triangle
    refine ⟨by linarith, fun tie => .inr ?_⟩
    linarith

/-- So it is among values that are off the grid only below a step that the number has passed. -/
theorem closest_on_grid (positive : 0 < step) (half : 2 * |m * step - a| ≤ step) {base : ℤ}
    (passed : base * step ≤ a) (grid : (∃ j, v = j * step) ∨ v < base * step) :
    |m * step - a| ≤ |v - a| ∧
      (|v - a| = |m * step - a| → v = m * step ∨ 2 * |m * step - a| = step) := by
  rcases grid with ⟨j, rfl⟩ | below
  · obtain ⟨closer, tie⟩ := closest_of_half positive half j
    exact ⟨closer, fun same => (tie same).imp_left (congrArg (· * step))⟩
  · have farther : |base * step - a| < |v - a| := by
      rw [abs_of_nonpos (by linarith), abs_of_nonpos (by linarith)]
      linarith
    have closer := (closest_of_half positive half base).1.trans_lt farther
    exact ⟨closer.le, fun same => absurd same closer.ne'⟩

end Grid

/-- Rounding goes down or up to the next step, whichever is closer; half way, to the even number of
steps. -/
theorem roundShift_cases (n k : Nat) :
    (roundShift n k = n / 2 ^ k ∧ 2 * (n % 2 ^ k) ≤ 2 ^ k ∨
      roundShift n k = n / 2 ^ k + 1 ∧ 2 ^ k ≤ 2 * (n % 2 ^ k)) ∧
      (2 * (n % 2 ^ k) = 2 ^ k → roundShift n k % 2 = 0) := by
  unfold roundShift
  simp only [Nat.pow_eq, Bool.or_eq_true, Bool.and_eq_true, decide_eq_true_eq, beq_iff_eq]
  split <;> omega

/-- Rounding is off by half a step at most, and where it is off by that much, the number of steps is
even. -/
theorem roundShift_half (n k : Nat) :
    2 * |(roundShift n k * 2 ^ k : ℤ) - n| ≤ 2 ^ k ∧
      (2 * |(roundShift n k * 2 ^ k : ℤ) - n| = 2 ^ k → roundShift n k % 2 = 0) := by
  obtain ⟨cases, even⟩ := roundShift_cases n k
  have rest_lt : n % 2 ^ k < 2 ^ k := Nat.mod_lt n (Nat.two_pow_pos k)
  have split : (n : ℤ) = (n / 2 ^ k : ℕ) * 2 ^ k + (n % 2 ^ k : ℕ) := by
    exact_mod_cast (Nat.div_add_mod' n (2 ^ k)).symm
  have distance : 2 * |(roundShift n k * 2 ^ k : ℤ) - n| ≤ 2 ^ k ∧
      (2 * |(roundShift n k * 2 ^ k : ℤ) - n| = 2 ^ k → 2 * (n % 2 ^ k) = 2 ^ k) := by
    rcases cases with ⟨down, close⟩ | ⟨up, close⟩
    · have off : (roundShift n k * 2 ^ k : ℤ) - n = -(n % 2 ^ k : ℕ) := by
        rw [down, split]
        ring
      rw [off, abs_neg, Nat.abs_cast]
      exact_mod_cast And.intro close id
    · have off : (roundShift n k * 2 ^ k : ℤ) - n = (2 ^ k - n % 2 ^ k : ℕ) := by
        rw [up, split, Nat.cast_sub rest_lt.le]
        push_cast
        ring
      rw [off, Nat.abs_cast]
      norm_cast
      omega
  exact ⟨distance.1, fun tie => even (distance.2 tie)⟩

/-- The significand of the double that an integer is rounded to. -/
def roundedSignificand (n : Nat) : Nat :=
  if n.log2 ≤ 52 then n * 2 ^ (52 - n.log2) else roundShift n (n.log2 - 52)

/-- The step between doubles of the integer's binade, in units. -/
def gridStep (n : Nat) : Nat := 2 ^ (n.log2 + 1022)

/-- The binary places of a unit. -/
def unitPlaces : Nat := 1074

theorem unitsPerOne_eq : unitsPerOne = 2 ^ unitPlaces := by
  delta unitsPerOne unitPlaces
  -- the power is not to be evaluated
  generalize 1074 = places
  exact Nat.pow_eq

theorem unitPlaces_eq : unitPlaces = 1074 := rfl

section Significand

variable {n : Nat}

/-- The significand has fifty-three bits, or is the next power of two. -/
theorem roundedSignificand_range (nonzero : n ≠ 0) :
    2 ^ 52 ≤ roundedSignificand n ∧ roundedSignificand n ≤ 2 ^ 53 := by
  have low : 2 ^ n.log2 ≤ n := Nat.log2_self_le nonzero
  have high : n < 2 ^ (n.log2 + 1) := Nat.lt_log2_self
  unfold roundedSignificand
  split
  · rename_i small
    have scaled : 2 ^ n.log2 * 2 ^ (52 - n.log2) = 2 ^ 52 := by
      rw [← Nat.pow_add, Nat.add_sub_cancel' small]
    have scaled' : 2 ^ (n.log2 + 1) * 2 ^ (52 - n.log2) = 2 ^ 53 := by
      rw [← Nat.pow_add]
      congr 1
      omega
    rw [← scaled, ← scaled']
    exact ⟨Nat.mul_le_mul_right _ low, Nat.mul_le_mul_right _ high.le⟩
  · rename_i large
    obtain ⟨cases, -⟩ := roundShift_cases n (n.log2 - 52)
    have whole : 2 ^ 52 ≤ n / 2 ^ (n.log2 - 52) := by
      rw [Nat.le_div_iff_mul_le (Nat.two_pow_pos _), ← Nat.pow_add]
      refine le_trans (Nat.pow_le_pow_right two_pos ?_) low
      omega
    have whole' : n / 2 ^ (n.log2 - 52) < 2 ^ 53 := by
      rw [Nat.div_lt_iff_lt_mul (Nat.two_pow_pos _), ← Nat.pow_add]
      refine lt_of_lt_of_le high (Nat.pow_le_pow_right two_pos ?_)
      omega
    rcases cases with ⟨down, -⟩ | ⟨up, -⟩ <;> omega

/-- The binade of an integer begins at the integer or below. -/
theorem binade_le (nonzero : n ≠ 0) : 2 ^ 52 * gridStep n ≤ n * unitsPerOne := by
  have split : 2 ^ 52 * gridStep n = 2 ^ n.log2 * unitsPerOne := by
    have places : 52 + (n.log2 + 1022) = n.log2 + unitPlaces := by
      rw [unitPlaces_eq]
      omega
    rw [gridStep, unitsPerOne_eq, ← Nat.pow_add, ← Nat.pow_add, places]
  rw [split]
  exact Nat.mul_le_mul_right _ (Nat.log2_self_le nonzero)

theorem abs_scaled {one : ℤ} (pos : 0 < one) (m step n : ℤ) :
    2 * |m * (step * one) - n * one| = 2 * |m * step - n| * one := by
  rw [← mul_assoc, ← sub_mul, abs_mul, abs_of_pos pos, mul_assoc]

/-- The significand, counted in steps, is off by half a step at most; if by that much, it is
even. -/
theorem roundedSignificand_half (n : Nat) :
    2 * |(roundedSignificand n * gridStep n : ℤ) - n * unitsPerOne| ≤ gridStep n ∧
      (2 * |(roundedSignificand n * gridStep n : ℤ) - n * unitsPerOne| = gridStep n →
        roundedSignificand n % 2 = 0) := by
  have step_pos : (0 : ℤ) < gridStep n := by exact_mod_cast Nat.two_pow_pos _
  unfold roundedSignificand
  split
  · rename_i small
    -- the integer has room for all its bits
    have exact : n * 2 ^ (52 - n.log2) * gridStep n = n * unitsPerOne := by
      have places : 52 - n.log2 + (n.log2 + 1022) = unitPlaces := by
        rw [unitPlaces_eq]
        omega
      rw [gridStep, unitsPerOne_eq, Nat.mul_assoc, ← Nat.pow_add, places]
    have off : ((n * 2 ^ (52 - n.log2) : ℕ) * gridStep n : ℤ) - n * unitsPerOne = 0 := by
      rw [sub_eq_zero]
      exact_mod_cast exact
    rw [off]
    simp only [abs_zero, mul_zero]
    exact ⟨step_pos.le, fun none => absurd none step_pos.ne⟩
  · rename_i large
    obtain ⟨half, even⟩ := roundShift_half n (n.log2 - 52)
    have step_eq : gridStep n = 2 ^ (n.log2 - 52) * unitsPerOne := by
      have places : n.log2 + 1022 = n.log2 - 52 + unitPlaces := by
        rw [unitPlaces_eq]
        omega
      rw [gridStep, unitsPerOne_eq, ← Nat.pow_add, places]
    have one_pos : (0 : ℤ) < unitsPerOne := by exact_mod_cast unitsPerOne_pos
    have step_cast : (gridStep n : ℤ) = 2 ^ (n.log2 - 52) * unitsPerOne := by exact_mod_cast step_eq
    rw [step_cast, abs_scaled one_pos]
    exact ⟨mul_le_mul_of_nonneg_right half one_pos.le,
      fun tie => even (mul_right_cancel₀ one_pos.ne' tie)⟩

end Significand

/-! ## 3. Patterns -/

section Pattern

variable (negative : Bool) {m p : Nat}

/-- The fields of a pattern with the significand `m` at the scale `p`. -/
theorem fields_ofFields (low : 2 ^ 52 ≤ m) (high : m ≤ 2 ^ 53) (inside : p ≤ 2044) :
    let x := ofFields negative 0 (p * 2 ^ 52 + m)
    x.exponentField = p + m / 2 ^ 52 ∧ x.fractionField = m % 2 ^ 52 ∧ x.isNegative = negative := by
  intro x
  have bits : x.bits.toNat = (if negative then 2 ^ 63 else 0) + (p * 2 ^ 52 + m) := by
    show (UInt64.ofNat _).toNat = _
    rw [UInt64.toNat_ofNat', Nat.zero_mul, Nat.add_zero]
    apply Nat.mod_eq_of_lt
    simp only [Nat.pow_eq]
    split <;> omega
  unfold exponentField fractionField isNegative
  simp only [bits, Nat.pow_eq]
  cases negative
  · refine ⟨?_, ?_, decide_eq_false ?_⟩ <;> simp only [Bool.false_eq_true, if_false] <;> omega
  · refine ⟨?_, ?_, decide_eq_true ?_⟩ <;> simp only [if_true] <;> omega

/-- Such a pattern is finite, its value is `m` steps of `2 ^ p` units, and its last bit is that of
the significand. -/
theorem spec_ofFields (low : 2 ^ 52 ≤ m) (high : m ≤ 2 ^ 53) (inside : p ≤ 2044) :
    let x := ofFields negative 0 (p * 2 ^ 52 + m)
    x.IsFinite ∧ x.units = (if negative then -1 else 1) * (m * 2 ^ p) ∧
      x.fractionField % 2 = m % 2 := by
  intro x
  obtain ⟨exponent, fraction, sign⟩ := fields_ofFields negative low high inside
  change x.exponentField = _ at exponent
  change x.fractionField = _ at fraction
  change x.isNegative = _ at sign
  have bounded : x.exponentField < 2047 := by omega
  have magnitude : x.magnitude = m * 2 ^ p := by
    rw [Binary64.magnitude, significand, if_neg (by omega), scale]
    simp only [Nat.pow_eq]
    rcases Nat.lt_or_ge m (2 ^ 53) with less | top
    · have hidden : 2 ^ 52 + x.fractionField = m := by omega
      have place : x.exponentField - 1 = p := by omega
      rw [hidden, place]
    · -- the significand has carried into the exponent
      have hidden : 2 ^ 52 + x.fractionField = 2 ^ 52 := by omega
      have place : x.exponentField - 1 = p + 1 := by omega
      rw [hidden, place, Nat.pow_succ, le_antisymm high top]
      omega
  refine ⟨⟨?_, ?_⟩, ?_, ?_⟩
  · simp [isNaN, bounded.ne]
  · simp [isInfinite, bounded.ne]
  · rw [units, sign, magnitude]
    cases negative <;> simp
  · omega

/-- Integers other than zero are put together from their significand and binade. -/
theorem ofNat_eq {n : Nat} (nonzero : n ≠ 0) (width : n.log2 < 1023) :
    ofNat negative n = ofFields negative 0 ((n.log2 + 1022) * 2 ^ 52 + roundedSignificand n) := by
  obtain ⟨-, high⟩ := roundedSignificand_range nonzero
  unfold ofNat
  rw [if_neg nonzero]
  simp only [Nat.pow_eq]
  rw [← roundedSignificand, Nat.min_eq_left]
  omega

end Pattern

/-! ## 4. Rounding -/

/-- The magnitude of a double is a whole number of steps, or below the binade of that step. -/
theorem magnitude_on_grid (y : Binary64) (p : Nat) :
    (∃ j, y.magnitude = j * 2 ^ p) ∨ y.magnitude < 2 ^ 52 * 2 ^ p := by
  have significand_lt : y.significand < 2 ^ 53 := by
    have fraction : y.fractionField < 2 ^ 52 := Nat.mod_lt _ (by decide)
    unfold significand
    simp only [Nat.pow_eq]
    split <;> omega
  unfold magnitude
  simp only [Nat.pow_eq]
  rcases Nat.lt_or_ge y.scale p with below | above
  · right
    calc y.significand * 2 ^ y.scale
        < 2 ^ 53 * 2 ^ y.scale := Nat.mul_lt_mul_of_pos_right significand_lt (Nat.two_pow_pos _)
      _ = 2 ^ 52 * 2 ^ (y.scale + 1) := by rw [Nat.pow_succ]; omega
      _ ≤ 2 ^ 52 * 2 ^ p := Nat.mul_le_mul_left _ (Nat.pow_le_pow_right two_pos below)
  · left
    refine ⟨y.significand * 2 ^ (y.scale - p), ?_⟩
    rw [Nat.mul_assoc, ← Nat.pow_add, Nat.sub_add_cancel above]

/-- So is its value, taken with either sign. -/
theorem units_on_grid (y : Binary64) (p : Nat) {sign : ℤ} (unit : sign = 1 ∨ sign = -1) :
    (∃ j : ℤ, sign * y.units = j * 2 ^ p) ∨ sign * y.units < 2 ^ 52 * 2 ^ p := by
  have signed : sign * y.units = y.magnitude ∨ sign * y.units = -y.magnitude := by
    unfold units
    rcases unit with rfl | rfl <;> cases y.isNegative <;> simp
  rcases signed with same | same
  · rw [same]
    rcases y.magnitude_on_grid p with ⟨j, steps⟩ | below
    · exact .inl ⟨j, by exact_mod_cast steps⟩
    · exact .inr (by exact_mod_cast below)
  · right
    have positive : (0 : ℤ) < 2 ^ 52 * 2 ^ p := by positivity
    omega

/-- Distances may be counted in units. -/
theorem abs_sub_mul_units (x : Binary64) (n : ℤ) :
    |x.rational - n| * unitsPerOne = (|x.units - n * unitsPerOne| : ℤ) := by
  rw [Int.cast_abs, Int.cast_sub, Int.cast_mul, Int.cast_natCast, units_eq_rational_mul, ← sub_mul,
    abs_mul, abs_of_pos cast_unitsPerOne_pos]

theorem rational_eq_of_units {x y : Binary64} (same : x.units = y.units) :
    x.rational = y.rational := by
  have scaled : x.rational * unitsPerOne = y.rational * unitsPerOne := by
    rw [← units_eq_rational_mul, ← units_eq_rational_mul, same]
  exact mul_right_cancel₀ cast_unitsPerOne_pos.ne' scaled

theorem IsNearest.of_units {x : Binary64} {n : ℤ} (finite : x.IsFinite)
    (closest : ∀ y : Binary64, |x.units - n * unitsPerOne| ≤ |y.units - n * unitsPerOne| ∧
      (|y.units - n * unitsPerOne| = |x.units - n * unitsPerOne| →
        y.units = x.units ∨ x.fractionField % 2 = 0)) : x.IsNearest n where
  finite := finite
  closest y _ := by
    refine le_of_mul_le_mul_right ?_ cast_unitsPerOne_pos
    rw [abs_sub_mul_units, abs_sub_mul_units]
    exact_mod_cast (closest y).1
  even y _ tie := by
    have counted : |y.units - n * unitsPerOne| = |x.units - n * unitsPerOne| := by
      have scaled := congrArg (· * (unitsPerOne : ℚ)) tie
      simp only [abs_sub_mul_units] at scaled
      exact_mod_cast scaled
    exact ((closest y).2 counted).imp_left rational_eq_of_units

/-- The double that an integer is rounded to is finite, has the sign of the integer and the rounded
significand for its magnitude, and ends as that does. -/
theorem spec_ofInt {n : ℤ} (nonzero : n ≠ 0) (width : n.natAbs.log2 < 1023) :
    (ofInt n).IsFinite ∧
      (ofInt n).units = n.sign * (roundedSignificand n.natAbs * gridStep n.natAbs) ∧
      (ofInt n).fractionField % 2 = roundedSignificand n.natAbs % 2 := by
  have magnitude : n.natAbs ≠ 0 := Int.natAbs_ne_zero.mpr nonzero
  obtain ⟨low, high⟩ := roundedSignificand_range magnitude
  have inside : n.natAbs.log2 + 1022 ≤ 2044 := by omega
  have spec := spec_ofFields (decide (n < 0)) low high inside
  rw [← ofNat_eq _ magnitude width, ← ofInt] at spec
  obtain ⟨finite, units, last⟩ := spec
  refine ⟨finite, ?_, last⟩
  have sign : n.sign = if decide (n < 0) = true then -1 else 1 := by
    rcases lt_or_gt_of_ne nonzero with negative | positive
    · simp [negative, Int.sign_eq_neg_one_of_neg negative]
    · simp [positive.le, Int.sign_eq_one_of_pos positive]
  rw [units, sign, gridStep]
  push_cast
  rfl

theorem sign_eq_one_or {n : ℤ} (nonzero : n ≠ 0) : n.sign = 1 ∨ n.sign = -1 := by
  rcases lt_or_gt_of_ne nonzero with negative | positive
  · exact .inr (Int.sign_eq_neg_one_of_neg negative)
  · exact .inl (Int.sign_eq_one_of_pos positive)

/-- Seen from its own side of zero, an integer is positive. -/
theorem abs_sub_mul_turned {n : ℤ} (nonzero : n ≠ 0) (v one : ℤ) :
    |v - n * one| = |n.sign * v - n.natAbs * one| := by
  have side : n.sign * v - n.natAbs * one = n.sign * (v - n * one) := by
    rw [mul_sub, ← mul_assoc, Int.sign_mul_self_eq_natAbs]
  rw [side, abs_mul, abs_eq_abs.mpr (sign_eq_one_or nonzero), abs_one, one_mul]

/-- The double that an integer is rounded to is nearest to it. -/
theorem isNearest_ofInt {n : ℤ} (width : n.natAbs.log2 < 1023) : (ofInt n).IsNearest n := by
  by_cases zero : n = 0
  · subst zero
    have exact : (ofInt 0).units = 0 := by decide
    refine .of_units ⟨by decide, by decide⟩ fun y => ?_
    rw [exact, zero_mul, sub_zero, sub_zero, abs_zero]
    exact ⟨abs_nonneg _, fun same => .inl (abs_eq_zero.mp same)⟩
  · obtain ⟨finite, units, last⟩ := spec_ofInt zero width
    have magnitude : n.natAbs ≠ 0 := Int.natAbs_ne_zero.mpr zero
    obtain ⟨half, even⟩ := roundedSignificand_half n.natAbs
    have step_pos : (0 : ℤ) < gridStep n.natAbs := by exact_mod_cast Nat.two_pow_pos _
    have passed : (2 ^ 52 : ℤ) * gridStep n.natAbs ≤ n.natAbs * unitsPerOne := by
      exact_mod_cast binade_le magnitude
    have unit := sign_eq_one_or zero
    have square : n.sign * n.sign = 1 := by rcases unit with h | h <;> rw [h] <;> rfl
    refine .of_units finite fun y => ?_
    have grid := y.units_on_grid (n.natAbs.log2 + 1022) unit
    have step_eq : (2 : ℤ) ^ (n.natAbs.log2 + 1022) = gridStep n.natAbs := by
      rw [gridStep, Nat.cast_pow, Nat.cast_ofNat]
    rw [step_eq] at grid
    obtain ⟨closer, tie⟩ := closest_on_grid step_pos half passed grid
    rw [abs_sub_mul_turned zero, abs_sub_mul_turned zero y.units, units, ← mul_assoc n.sign, square,
      one_mul, last]
    refine ⟨closer, fun same => (tie same).imp (fun steps => ?_) even⟩
    rw [← steps, ← mul_assoc, square, one_mul]

end Rulebook.Binary64
