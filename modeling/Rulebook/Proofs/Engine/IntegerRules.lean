/-
Rulebook.Proofs.Engine.IntegerRules — rules that order integer fields go by the
integers.

Fields hold integers of every machine type, and rules see their values, which are
doubles for the integers that 64 bits do not hold.  Different integers may have the
same double, so a rule can take them for equal; it never takes the larger for the
smaller.  Hence `>=` and `<=` let every pair through that is in order, and `>` and
`<` let none through that is not.

  §1 Records — the integers that fields hold, and the values they are read as.
  §2 Rules   — orderings of an integer field and an integer operand.
-/
import Rulebook.Proofs.Engine.ComparisonKinds
import Rulebook.Proofs.Value.WideIntegers

namespace Rulebook

/-! ## 1. Records -/

/-- The integer that an instance is, if the type is one of integers. -/
def Scalar.int? : (s : Scalar) → s.Carrier → Option ℤ
  | .int t, n => some (MachineInt.val (t := t) n)
  | _, _ => none

/-- The integer in an instance, under the optional layers that are there. -/
def FieldType.int? : (t : FieldType) → t.Carrier → Option ℤ
  | .scalar s, x => s.int? x
  | .optional t, x => Option.bind (α := t.Carrier) x t.int?

/-- The integer that the field at a position holds, if it is one of integers and not absent. -/
def Record.int? {fields : List Field} : Record fields → Nat → Option ℤ
  | .nil, _ => none
  | @Record.cons f _ x _, 0 => f.type.int? x
  | .cons _ rest, i + 1 => rest.int? i

theorem FieldType.read_of_int? {t : FieldType} {x : t.Carrier} {n : ℤ} (holds : t.int? x = some n) :
    t.kind = .int ∧
      ∃ (u : IntType) (m : MachineInt u), m.val = n ∧ t.read x = ToValue.toValue m := by
  induction t with
  | scalar s =>
    cases s with
    | int u => exact ⟨rfl, u, x, Option.some.inj holds, rfl⟩
    | _ => cases holds
  | optional t ih =>
    cases x with
    | none => cases holds
    | some y => exact ih holds

/-- A field that holds an integer is read as the value of that integer. -/
theorem Record.value_of_int? {fields : List Field} {r : Record fields} {i : Nat} {n : ℤ}
    (holds : r.int? i = some n) :
    ∃ (t : IntType) (m : MachineInt t), m.val = n ∧ r.entity i = ToValue.toValue m := by
  induction r generalizing i with
  | nil => cases holds
  | cons x rest ih =>
    cases i with
    | zero => exact (FieldType.read_of_int? holds).2
    | succ i => exact ih holds

/-- And it is declared as one of integers. -/
theorem Record.kind_of_int? {fields : List Field} (r : Record fields) (start : Nat) :
    ∀ p ∈ Field.properties start fields,
      ∃ i, p.index = start + i ∧ ∀ n, r.int? i = some n → p.kind = .int := by
  induction r generalizing start with
  | nil =>
    intro p mem
    cases mem
  | @cons f fs x rest ih =>
    intro p mem
    rcases List.mem_cons.mp mem with rfl | mem
    · exact ⟨0, rfl, fun n holds => (FieldType.read_of_int? holds).1⟩
    · obtain ⟨i, index, int⟩ := ih (start + 1) p mem
      exact ⟨i + 1, by omega, int⟩

/-- For the record, the operand is the integer: a field holds it, or it is the constant. -/
inductive Operand.IsInt {fields : List Field} (r : Record fields) : Operand → ℤ → Prop
  | field {p : Property} {n : ℤ} (holds : r.int? p.index = some n) : IsInt r (.property p) n
  | constant {t : IntType} (m : MachineInt t) : IsInt r (.constant (ToValue.toValue m)) m.val

/-! ## 2. Rules -/

/-- The rule of a record type orders a field, which holds the one integer in the record, and an
operand, which is the other. -/
structure OrdersIntegers {fields : List Field} (r : Record fields) (t : Target) (a b : ℤ) :
    Prop where
  shape : ∃ typeName, t.shape = Field.shape typeName fields
  declared : t.property ∈ t.shape.properties
  operator : t.rule.operator ∈ Relation.operators
  left : r.int? t.property.index = some a
  right : ∃ right, t.operand = .ok right ∧ right.IsInt r b

section Rules

variable {fields : List Field} {r : Record fields} {t : Target} {a b : ℤ}

/-- What an operand is read as that is an integer. -/
theorem Operand.IsInt.read {right : Operand} (int : right.IsInt r b) :
    ∃ (u : IntType) (m : MachineInt u), m.val = b ∧ right.read r.entity = ToValue.toValue m := by
  cases int with
  | field holds => exact Record.value_of_int? holds
  | constant m => exact ⟨_, m, rfl, rfl⟩

/-- Integer fields of the record are declared as such. -/
theorem OrdersIntegers.kind_eq (orders : OrdersIntegers r t a b) {p : Property} {n : ℤ}
    (mem : p ∈ t.shape.properties) (holds : r.int? p.index = some n) : p.kind = .int := by
  obtain ⟨typeName, shape⟩ := orders.shape
  rw [shape] at mem
  obtain ⟨i, index, int⟩ := r.kind_of_int? 0 p mem
  rw [Nat.zero_add] at index
  exact int n (index ▸ holds)

/-- The operand has a kind that compares with integers. -/
theorem OrdersIntegers.comparable (orders : OrdersIntegers r t a b) {right : Operand}
    (operand : t.operand = .ok right) (int : right.IsInt r b) :
    ∃ kind, right.kind? = some kind ∧ kind.isComparableWith .int = true := by
  cases int with
  | field holds =>
    refine ⟨.int, congrArg some ?_, rfl⟩
    exact orders.kind_eq (Target.mem_of_operand operand) holds
  | constant m =>
    have present : (Value.ofInt m.val).isNull = false := by
      unfold Value.ofInt
      split <;> rfl
    obtain ⟨kind, known⟩ := Value.exists_kind? present
    exact ⟨kind, known, Value.suits_ofInt m.val kind known⟩

/-- Such a rule is bound, and its verdict goes by the order of the readings. -/
theorem OrdersIntegers.bound [Patterns] (orders : OrdersIntegers r t a b) {h : Handler}
    (builtin : h.IsBuiltin t.rule.operator) :
    ∃ f, h.build t = .done (.ok f) ∧
      f r.entity = decide (t.rule.operator ∉
        Operator.failingAt (some (cmp (Value.reading a) (Value.reading b)))) := by
  obtain ⟨right, operand, int⟩ := orders.right
  have compares : t.rule.operator ∈ Operator.comparisons := by
    have all : ∀ op ∈ Relation.operators, op ∈ Operator.comparisons := by decide
    exact all _ orders.operator
  have kind_eq := orders.kind_eq orders.declared orders.left
  obtain ⟨kind, known, comparable⟩ := orders.comparable operand int
  obtain ⟨f, built⟩ := (builtin.binds_iff compares operand known).mpr (by
    rw [kind_eq]
    rw [Kind.isComparableWith_iff] at comparable ⊢
    exact ⟨comparable.symm, fun _ => rfl⟩)
  refine ⟨f, built, ?_⟩
  obtain ⟨c, isFor, rfl⟩ := builtin.comparison_of_build built
  obtain rfl : c.right = right := Except.ok.inj (isFor.operand.symm.trans operand)
  obtain ⟨u, m, rfl, read⟩ := Record.value_of_int? orders.left
  obtain ⟨u', m', rfl, read'⟩ := int.read
  have order := MachineInt.compare?_toValue m m'
  obtain ⟨here, there⟩ := Value.present_of_compare? order
  have verdict := Judgement.verdict_of_present (isFor.unmatched compares) here there
    t.rule.allowsNull
  rw [order, isFor.operator] at verdict
  rw [Comparison.predicate, Property.read, read, read', verdict]

/-- The integers are of machine types. -/
theorem OrdersIntegers.width (orders : OrdersIntegers r t a b) :
    a.natAbs.log2 < 1023 ∧ b.natAbs.log2 < 1023 := by
  obtain ⟨right, -, int⟩ := orders.right
  obtain ⟨u, m, rfl, -⟩ := Record.value_of_int? orders.left
  obtain ⟨u', m', rfl, -⟩ := int.read
  exact ⟨m.width, m'.width⟩

end Rules

/-- Which orderings pass for two numbers. -/
theorem Operator.not_mem_failingAt_cmp (x y : ℚ) :
    (greaterThan ∉ failingAt (some (cmp x y)) ↔ y < x) ∧
      (greaterThanOrEqual ∉ failingAt (some (cmp x y)) ↔ y ≤ x) ∧
      (lessThan ∉ failingAt (some (cmp x y)) ↔ x < y) ∧
      (lessThanOrEqual ∉ failingAt (some (cmp x y)) ↔ x ≤ y) := by
  have le : y ≤ x ↔ cmp x y ≠ .lt := by rw [ne_eq, cmp_eq_lt_iff, not_lt]
  have ge : x ≤ y ↔ cmp x y ≠ .gt := by rw [ne_eq, cmp_eq_gt_iff, not_lt]
  rw [le, ge, ← cmp_eq_gt_iff x y, ← cmp_eq_lt_iff x y]
  generalize cmp x y = o
  cases o <;> decide

/-- Integers of every machine type convert without wrapping: to themselves where 64 bits hold them,
and otherwise to the nearest double, which is finite and on their side of zero.  Their order is
kept, and kept strictly within 64 bits and across the upper end of these.  So a rule that orders
integer fields is bound, `>=` and `<=` never fail where the integers are in order, and `>` and `<`
never pass where they are not. -/
theorem integers_convert_in_order [Patterns] :
    (∀ (t : IntType) (n : MachineInt t),
      (FitsInt64 n.val → ∃ k : Int64, ToValue.toValue n = .int k ∧ k.toInt = n.val) ∧
        (¬FitsInt64 n.val → ∃ x, ToValue.toValue n = .float x ∧ x.IsNearest n.val ∧
          (n.val < 0 → x.rational < 0) ∧ (0 < n.val → 0 < x.rational))) ∧
      (∀ (t u : IntType) (a : MachineInt t) (b : MachineInt u), a.val ≤ b.val →
        ∃ o, (ToValue.toValue a).compare? (ToValue.toValue b) = some o ∧ o ≠ .gt ∧
          (a.val < b.val →
            FitsInt64 a.val ∧ FitsInt64 b.val ∨
              a.val ≤ Int64.maxValue.toInt ∧ Int64.maxValue.toInt < b.val → o = .lt)) ∧
      ∀ (fields : List Field) (r : Record fields) (t : Target) (a b : ℤ), OrdersIntegers r t a b →
        ∀ h : Handler, h.IsBuiltin t.rule.operator →
          ∃ f, h.build t = .done (.ok f) ∧
            (t.rule.operator = .greaterThanOrEqual → b ≤ a → f r.entity = true) ∧
            (t.rule.operator = .lessThanOrEqual → a ≤ b → f r.entity = true) ∧
            (t.rule.operator = .greaterThan → f r.entity = true → b < a) ∧
            (t.rule.operator = .lessThan → f r.entity = true → a < b) := by
  refine ⟨?_, ?_, ?_⟩
  · intro t n
    exact ⟨Value.ofInt_of_fits, n.toValue_of_not_fits⟩
  · intro t u a b order
    refine ⟨_, a.compare?_toValue b, ?_, ?_⟩
    · rw [ne_eq, cmp_eq_gt_iff, not_lt]
      exact Value.reading_mono a.width b.width order
    · intro less apart
      rw [cmp_eq_lt_iff]
      exact Value.reading_strictMono a.width b.width less apart
  · intro fields r t a b orders h builtin
    obtain ⟨f, built, verdict⟩ := orders.bound builtin
    obtain ⟨width, width'⟩ := orders.width
    obtain ⟨greater, greaterOrEqual, less, lessOrEqual⟩ :=
      Operator.not_mem_failingAt_cmp (Value.reading a) (Value.reading b)
    refine ⟨f, built, ?_, ?_, ?_, ?_⟩ <;> intro operator <;>
      rw [verdict, operator, decide_eq_true_iff]
    · rw [greaterOrEqual]
      exact Value.reading_mono width' width
    · rw [lessOrEqual]
      exact Value.reading_mono width width'
    · rw [greater]
      contrapose!
      exact Value.reading_mono width width'
    · rw [less]
      contrapose!
      exact Value.reading_mono width' width

/-! ### Transfers -/

/-- Transfers have an amount that was sent, and one that was received, if it was. -/
def transferFields : List Field :=
  [⟨"sent", .scalar (.int ⟨false, .w64⟩)⟩, ⟨"received", .optional (.scalar (.int ⟨true, .w128⟩))⟩]

/-- A transfer of amounts that differ by one, beyond what 64 bits hold. -/
def transfer : Record transferFields :=
  .cons (⟨2 ^ 63 + 1, by decide, by decide⟩ : MachineInt ⟨false, .w64⟩)
    (.cons (some ⟨2 ^ 63 + 2, by decide, by decide⟩ : Option (MachineInt ⟨true, .w128⟩)) .nil)

/-- The rule that no more is sent than received. -/
def transferTarget : Target where
  shape := Field.shape "Transfer" transferFields
  property := ⟨"sent", 0, .int, false⟩
  rule := .withSibling .lessThanOrEqual "received"

/-- Both amounts have the same nearest double, and the rule, which the integers satisfy, passes. -/
theorem integers_convert_in_order_transfers :
    transfer.entity 0 = transfer.entity 1 ∧
      (∃ o, (transfer.entity 0).compare? (transfer.entity 1) = some o ∧ o ≠ .gt) ∧
      (∃ x, transfer.entity 0 = .float x ∧ x.IsNearest (2 ^ 63 + 1 : ℤ) ∧ 0 < x.rational) ∧
      OrdersIntegers transfer transferTarget (2 ^ 63 + 1) (2 ^ 63 + 2) ∧
      ∃ f, (Handler.ordering "Ordering").build transferTarget = .done (.ok f) ∧
        f transfer.entity = true := by
  let sent : MachineInt ⟨false, .w64⟩ := ⟨2 ^ 63 + 1, by decide, by decide⟩
  let received : MachineInt ⟨true, .w128⟩ := ⟨2 ^ 63 + 2, by decide, by decide⟩
  have orders : OrdersIntegers transfer transferTarget (2 ^ 63 + 1) (2 ^ 63 + 2) :=
    { shape := ⟨_, rfl⟩
      declared := List.mem_cons_self
      operator := by decide
      left := rfl
      right := ⟨_, rfl, .field rfl⟩ }
  obtain ⟨converted, ordered, rules⟩ := integers_convert_in_order
  obtain ⟨x, double, nearest, -, positive⟩ := (converted _ sent).2 (by decide)
  obtain ⟨o, order, forwards, -⟩ := ordered _ _ sent received (by decide)
  obtain ⟨f, built, -, passes, -⟩ := rules _ _ _ _ _ orders (.ordering "Ordering")
    (.ordering _ orders.operator)
  exact ⟨by decide +kernel, ⟨o, order, forwards⟩, ⟨x, double, nearest, positive (by decide)⟩,
    orders, f, built, passes rfl (by decide)⟩

end Rulebook
