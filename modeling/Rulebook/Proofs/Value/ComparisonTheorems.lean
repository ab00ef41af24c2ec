/-
Rulebook.Proofs.Value.ComparisonTheorems — the comparison of values is a
consistent partial order, and loose equality is its equality.

Each value that can be compared has a `Standing`: a scale (truth values,
numbers, texts, dates, times) and a place on it.  Integers and doubles share one
scale, on which both are counted exactly in units of `2^-1074`, so that chains
which change between the two cannot contradict each other; widening integers to
doubles would.  On each scale the places are totally ordered, and
`compare?_eq_standing` says that `Value.compare?` is that order wherever both
values stand on one scale.

  §1 Standings       — scales, places and the laws of their order.
  §2 The comparison  — the laws carried over to values, and the exact condition
                       under which two values have no order.
  §3 Loose equality  — absent values equal each other, all others go by the
                       comparison.
-/
import Rulebook.Proofs.Number.ExactValue

namespace Rulebook

/-! ## 1. Standings -/

instance : Std.TransCmp Date.order :=
  inferInstanceAs (Std.TransCmp
    (compareLex (compareOn Date.year) (compareLex (compareOn Date.month) (compareOn Date.day))))

instance : Std.TransCmp Instant.order :=
  inferInstanceAs (Std.TransCmp (compareLex (compareOn Instant.seconds) (compareOn Instant.nanos)))

/-- A place on one of the scales that values are compared on. -/
inductive Standing
  | truth (b : Bool)
  | number (units : Int)
  | text (s : String)
  | date (d : Date)
  | instant (t : Instant)

namespace Standing

/-- The order of two places on the same scale. -/
def compare? : Standing → Standing → Option Ordering
  | .truth a, .truth b => some (compare a b)
  | .number m, .number n => some (compare m n)
  | .text a, .text b => some (compare a b)
  | .date a, .date b => some (a.order b)
  | .instant a, .instant b => some (a.order b)
  | _, _ => none

theorem compare?_self (s : Standing) : s.compare? s = some .eq := by
  cases s <;> exact congrArg some Std.ReflCmp.compare_self

theorem compare?_swap (s t : Standing) : t.compare? s = (s.compare? t).map Ordering.swap := by
  cases s <;> cases t <;> first | rfl | exact congrArg some Std.OrientedCmp.eq_swap

theorem compare?_lt_trans {s t u : Standing} (hst : s.compare? t = some .lt)
    (htu : t.compare? u = some .lt) : s.compare? u = some .lt := by
  cases s <;> cases t <;> cases u <;> first | contradiction | skip
  all_goals
    simp only [compare?, Option.some.injEq] at hst htu ⊢
    exact Std.TransCmp.lt_trans hst htu

/-- Equal places compare alike with every third one. -/
theorem compare?_congr {s t : Standing} (h : s.compare? t = some .eq) (u : Standing) :
    s.compare? u = t.compare? u := by
  cases s <;> cases t <;> first | contradiction | skip
  all_goals
    simp only [compare?, Option.some.injEq] at h
    cases u <;> first | rfl | exact congrArg some (Std.TransCmp.congr_left h)

end Standing

/-! ## 2. The comparison -/

namespace Value

/-- Whether the value is a double that is not a number. -/
def isNaN : Value → Bool
  | .float x => x.isNaN
  | _ => false

/-- Whether both values have kinds, and ones that can be compared. -/
def kindsCompare (a b : Value) : Bool :=
  match a.kind?, b.kind? with
  | some k, some l => k.isComparableWith l
  | _, _ => false

/-- The standing of a value; absent values and what is not a number have none. -/
def standing? : Value → Option Standing
  | .null => none
  | .bool b => some (.truth b)
  | .int n => some (.number (n.toInt * Binary64.unitsPerOne))
  | .float x => if x.isNaN then none else some (.number x.units)
  | .text s => some (.text s)
  | .date d => some (.date d)
  | .dateTime t => some (.instant t)

theorem standing?_eq_none_iff (a : Value) :
    a.standing? = none ↔ a.isNull = true ∨ a.isNaN = true := by
  cases a
  case float x => cases h : x.isNaN <;> simp [standing?, isNull, isNaN, h]
  all_goals simp only [standing?, isNull, isNaN, reduceCtorEq, Bool.false_eq_true, or_self, true_or]

/-- Values are compared by their standings. -/
theorem compare?_eq_standing (a b : Value) :
    a.compare? b = a.standing?.bind fun s => b.standing?.bind s.compare? := by
  have mixed (n : Int64) (x : Binary64) :
      (Value.int n).compare? (.float x)
        = (Value.int n).standing?.bind fun s => (Value.float x).standing?.bind s.compare? := by
    cases nan : x.isNaN
    · simp only [compare?, standing?, nan, Bool.false_eq_true, if_false, Option.bind_some,
        Standing.compare?, Binary64.compareInt?_eq_compare_units n nan]
    · simp only [compare?, standing?, nan, if_true, Option.bind_some, Option.bind_none,
        Binary64.compareInt?]
  cases a <;> cases b
  case int.int m n =>
    have one_pos : (0 : Int) < Binary64.unitsPerOne := by exact_mod_cast Binary64.unitsPerOne_pos
    simp only [compare?, standing?, Standing.compare?, Option.bind_some, Option.some.injEq]
    rw [← cmp_eq_compare, ← cmp_eq_compare, cmp_mul_pos_right one_pos]
  case int.float n x => exact mixed n x
  case float.int x n =>
    -- the comparison turns the operands round, and so do the standings
    have turned : (Value.float x).compare? (.int n)
        = ((Value.int n).compare? (.float x)).map Ordering.swap := rfl
    rw [turned, mixed]
    cases nan : x.isNaN
    · simp only [standing?, nan, Bool.false_eq_true, if_false, Option.bind_some]
      exact (Standing.compare?_swap _ _).symm
    · simp only [standing?, nan, if_true, Option.bind_some, Option.bind_none, Option.map_none]
  case float.float x y =>
    cases hx : x.isNaN <;> cases hy : y.isNaN <;>
      simp [compare?, Binary64.compare?, standing?, Standing.compare?, hx, hy]
  -- the scales differ, or are the same and neither holds numbers
  all_goals first | rfl | (simp only [standing?]; split <;> rfl)

/-- Two values have no order exactly when one is absent, their kinds do not compare, or one is not
a number. -/
theorem compare?_eq_none_iff (a b : Value) :
    a.compare? b = none ↔
      a.isNull = true ∨ b.isNull = true ∨ a.kindsCompare b = false ∨
        a.isNaN = true ∨ b.isNaN = true := by
  cases a <;> cases b
  case int.float n x =>
    simp [compare?, Binary64.compareInt?_eq_none_iff, isNull, isNaN, kindsCompare, kind?,
      Kind.isComparableWith, Kind.isNumeric]
  case float.int x n =>
    simp [compare?, Binary64.compareInt?_eq_none_iff, isNull, isNaN, kindsCompare, kind?,
      Kind.isComparableWith, Kind.isNumeric]
  case float.float x y =>
    cases hx : x.isNaN <;>
      simp [compare?, Binary64.compare?, isNull, isNaN, kindsCompare, kind?,
        Kind.isComparableWith, hx]
  all_goals simp [compare?, isNull, isNaN, kindsCompare, kind?, Kind.isComparableWith,
    Kind.isNumeric]

/-- Turning the operands round turns the order round. -/
theorem compare?_swap (a b : Value) : b.compare? a = (a.compare? b).map Ordering.swap := by
  rw [compare?_eq_standing, compare?_eq_standing]
  cases ha : a.standing? with
  | none => cases b.standing? <;> rfl
  | some s =>
    cases hb : b.standing? with
    | none => rfl
    | some t => exact Standing.compare?_swap s t

/-- Values with an order have standings with that order. -/
theorem exists_standing_of_compare? {a b : Value} {o : Ordering} (h : a.compare? b = some o) :
    ∃ s t, a.standing? = some s ∧ b.standing? = some t ∧ s.compare? t = some o := by
  rw [compare?_eq_standing] at h
  obtain ⟨s, ha, h⟩ := Option.bind_eq_some_iff.mp h
  obtain ⟨t, hb, h⟩ := Option.bind_eq_some_iff.mp h
  exact ⟨s, t, ha, hb, h⟩

theorem compare?_lt_trans {a b c : Value} (hab : a.compare? b = some .lt)
    (hbc : b.compare? c = some .lt) : a.compare? c = some .lt := by
  obtain ⟨s, t, ha, hb, hst⟩ := exists_standing_of_compare? hab
  obtain ⟨t', u, hb', hc, htu⟩ := exists_standing_of_compare? hbc
  have same : t' = t := Option.some.inj (hb'.symm.trans hb)
  subst same
  simp only [compare?_eq_standing, ha, hc, Option.bind_some]
  exact Standing.compare?_lt_trans hst htu

/-- Equal values compare alike with every third value. -/
theorem compare?_congr {a b : Value} (h : a.compare? b = some .eq) (c : Value) :
    a.compare? c = b.compare? c := by
  obtain ⟨s, t, ha, hb, hst⟩ := exists_standing_of_compare? h
  simp only [compare?_eq_standing, ha, hb, Option.bind_some]
  cases c.standing? with
  | none => rfl
  | some u => exact Standing.compare?_congr hst u

theorem compare?_eq_trans {a b c : Value} (hab : a.compare? b = some .eq)
    (hbc : b.compare? c = some .eq) : a.compare? c = some .eq :=
  (compare?_congr hab c).trans hbc

/-- A value equals itself, unless it is absent or not a number. -/
theorem compare?_self_eq_iff (a : Value) :
    a.compare? a = some .eq ↔ a.isNull = false ∧ a.isNaN = false := by
  rw [compare?_eq_standing]
  cases h : a.standing? with
  | none =>
    rcases (standing?_eq_none_iff a).mp h with absent | nan
    · simp [absent]
    · simp [nan]
  | some s =>
    have present : ¬(a.isNull = true ∨ a.isNaN = true) := by
      rw [← standing?_eq_none_iff, h]
      exact Option.some_ne_none s
    simp only [Option.bind_some, Standing.compare?_self, true_iff]
    simpa using present

/-! ## 3. Loose equality -/

/-- Loose equality is equality under the comparison, and that of two absent values. -/
theorem looselyEquals_iff (a b : Value) :
    a.looselyEquals b = true ↔ (a = .null ∧ b = .null) ∨ a.compare? b = some .eq := by
  cases a <;> cases b <;> simp [looselyEquals, compare?]

theorem looselyEquals_comm (a b : Value) : a.looselyEquals b = b.looselyEquals a := by
  have turned : a.compare? b = some .eq ↔ b.compare? a = some .eq := by
    rw [compare?_swap a b]
    cases a.compare? b with
    | none => simp
    | some o => cases o <;> simp
  rw [Bool.eq_iff_iff, looselyEquals_iff, looselyEquals_iff, turned, and_comm]

theorem looselyEquals_trans {a b c : Value} (hab : a.looselyEquals b = true)
    (hbc : b.looselyEquals c = true) : a.looselyEquals c = true := by
  rw [looselyEquals_iff] at hab hbc ⊢
  rcases hab with ⟨rfl, rfl⟩ | hab
  · exact hbc
  · rcases hbc with ⟨rfl, rfl⟩ | hbc
    · exact .inr hab
    · exact .inr (compare?_eq_trans hab hbc)

theorem looselyEquals_self_iff (a : Value) : a.looselyEquals a = true ↔ a.isNaN = false := by
  rw [looselyEquals_iff, compare?_self_eq_iff]
  cases a <;> simp [isNull, isNaN]

/-- Values of the same variant with equal content are loosely equal. -/
theorem looselyEquals_of_beq {a b : Value} (h : (a == b) = true) : a.looselyEquals b = true := by
  have content : a.identical b = true := h
  cases a
  case float x =>
    -- doubles are identical as numbers, which is how they are compared
    cases b
    case float y => exact content
    all_goals cases content
  all_goals
    have same : _ = b := of_decide_eq_true content
    subst same
    exact (looselyEquals_self_iff _).mpr rfl

end Value

/-- The comparison of values is a partial order that is silent exactly on absent values, on kinds
that do not compare and on what is not a number; loose equality is its equality, with absent values
equal to each other, and covers equality of content. -/
theorem compare?_and_looselyEquals_consistent (a b c : Value) :
    (a.compare? b = none ↔
      a.isNull = true ∨ b.isNull = true ∨ a.kindsCompare b = false ∨
        a.isNaN = true ∨ b.isNaN = true) ∧
    b.compare? a = (a.compare? b).map Ordering.swap ∧
    (a.compare? b = some .lt → b.compare? c = some .lt → a.compare? c = some .lt) ∧
    (a.compare? b = some .eq → b.compare? c = some .eq → a.compare? c = some .eq) ∧
    (a.compare? b = some .eq → a.compare? c = b.compare? c ∧ c.compare? a = c.compare? b) ∧
    a.looselyEquals b = b.looselyEquals a ∧
    (a.looselyEquals b = true → b.looselyEquals c = true → a.looselyEquals c = true) ∧
    (a.looselyEquals a = true ↔ a.isNaN = false) ∧
    (a.looselyEquals b = true ↔ (a = .null ∧ b = .null) ∨ a.compare? b = some .eq) ∧
    ((a == b) = true → a.looselyEquals b = true) := by
  refine ⟨a.compare?_eq_none_iff b, a.compare?_swap b, Value.compare?_lt_trans,
    Value.compare?_eq_trans, ?_, a.looselyEquals_comm b, Value.looselyEquals_trans,
    a.looselyEquals_self_iff, a.looselyEquals_iff b, Value.looselyEquals_of_beq⟩
  intro h
  refine ⟨Value.compare?_congr h c, ?_⟩
  rw [Value.compare?_swap a c, Value.compare?_swap b c, Value.compare?_congr h c]

end Rulebook
