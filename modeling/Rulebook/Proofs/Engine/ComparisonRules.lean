/-
Rulebook.Proofs.Engine.ComparisonRules — the six comparisons of one operand fit
together.

Two handlers decide them: the ordering operators go by the order of the two
values, equality and difference by loose equality.  Which of the six fail is all
the same a function of the order of the values alone, except that two absent
values, which have none, are equal.

  §1 Patterns — the operators that fail, for each order.
  §2 Verdicts — strict comparisons pass exactly where they are not in the pattern.
  §3 Rules    — the laws among the six, and rule sets that declare them all.
-/
import Rulebook.Proofs.Engine.BuiltinRules
import Rulebook.Proofs.Value.ComparisonTheorems

namespace Rulebook

/-! ## 1. Patterns -/

/-- The operators that compare two values. -/
def Operator.comparisons : List Operator :=
  [.greaterThan, .greaterThanOrEqual, .lessThan, .lessThanOrEqual, .equal, .notEqual]

/-- The comparisons that fail for values in the given order, or without one. -/
def Operator.failingAt : Option Ordering → List Operator
  | some .lt => [.greaterThan, .greaterThanOrEqual, .equal]
  | some .eq => [.greaterThan, .lessThan, .notEqual]
  | some .gt => [.lessThan, .lessThanOrEqual, .equal]
  | none => [.greaterThan, .greaterThanOrEqual, .lessThan, .lessThanOrEqual, .equal]

/-- The comparisons that fail for two values.  Absent values have no order, but equal each other. -/
def Operator.failing (left right : Value) : List Operator :=
  if left.isNull && right.isNull then
    [.greaterThan, .greaterThanOrEqual, .lessThan, .lessThanOrEqual, .notEqual]
  else failingAt (left.compare? right)

/-! ## 2. Verdicts -/

/-- Values with an order are present. -/
theorem Value.present_of_compare? {left right : Value} {o : Ordering}
    (order : left.compare? right = some o) : left.isNull = false ∧ right.isNull = false := by
  have some : ¬left.compare? right = none := by rw [order]; exact Option.some_ne_none o
  rw [compare?_eq_none_iff] at some
  simp only [not_or, Bool.not_eq_true] at some
  exact ⟨some.1, some.2.1⟩

/-- A strict ordering rule holds where there is an order, and it is right. -/
theorem Relation.verdict_strict (relation : Relation) (left right : Value) :
    relation.verdict false left right = (left.compare? right).any relation.holds := by
  unfold verdict
  cases order : left.compare? right with
  | none => split <;> rfl
  | some o =>
    obtain ⟨here, there⟩ := Value.present_of_compare? order
    rw [here, there]
    rfl

/-- A strict equality rule goes by the order, or by the absence of both values. -/
theorem Equality.verdict_strict (negated : Bool) (left right : Value) :
    Equality.verdict negated false left right =
      ((left.isNull && right.isNull || left.compare? right == some .eq) != negated) := by
  have loosely : left.looselyEquals right
      = (left.isNull && right.isNull || left.compare? right == some .eq) := by
    rw [Bool.eq_iff_iff, Value.looselyEquals_iff]
    cases left <;> cases right <;> simp [Value.isNull, Value.compare?]
  unfold verdict
  rw [loosely]
  rfl

/-- A strict comparison passes where its operator is not among the failing ones. -/
theorem Judgement.verdict_strict {j : Judgement} (compares : j.operator ∈ Operator.comparisons)
    (left right : Value) :
    j.verdict false left right = decide (j.operator ∉ Operator.failing left right) := by
  unfold Operator.failing
  cases j with
  | ordering relation =>
    rw [verdict, Relation.verdict_strict]
    cases order : left.compare? right with
    | none => cases left.isNull && right.isNull <;> cases relation <;> decide
    | some o =>
      obtain ⟨here, there⟩ := Value.present_of_compare? order
      rw [here, there]
      cases o <;> cases relation <;> decide
  | equality negated =>
    rw [verdict, Equality.verdict_strict]
    cases order : left.compare? right with
    | none => cases left.isNull && right.isNull <;> cases negated <;> decide
    | some o =>
      obtain ⟨here, there⟩ := Value.present_of_compare? order
      rw [here, there]
      cases o <;> cases negated <;> decide
  | matching test =>
    have other : Operator.matching ∉ Operator.comparisons := by decide
    exact absurd compares other

/-- What a comparison rule has been bound to passes where its operator is not among the failing
ones. -/
theorem Comparison.IsFor.strict [Patterns] {t : Target} {c : Comparison} (isFor : c.IsFor t)
    (compares : t.rule.operator ∈ Operator.comparisons) {right : Operand}
    (operand : t.operand = .ok right) (e : Entity) :
    c.predicate t.property false e
      = decide (t.rule.operator ∉ Operator.failing (t.property.read e) (right.read e)) := by
  obtain rfl : c.right = right := Except.ok.inj (isFor.operand.symm.trans operand)
  unfold predicate
  rw [← isFor.operator] at compares ⊢
  exact Judgement.verdict_strict compares _ _

/-! ## 3. Rules -/

/-- The rules compare the property with one operand by each of the six operators, and none of them
is lenient; wording and severities are free. -/
structure ComparesAll (shape : Shape) (property : Property) (rule : Operator → Rule)
    (right : Operand) : Prop where
  operator : ∀ op ∈ Operator.comparisons, (rule op).operator = op
  strict : ∀ op ∈ Operator.comparisons, (rule op).allowsNull = false
  operand : ∀ op ∈ Operator.comparisons, Target.operand ⟨shape, property, rule op⟩ = .ok right

/-- Whatever a rule for one of the operators has been bound to decides as the pattern says. -/
theorem ComparesAll.decided [Patterns] {shape : Shape} {property : Property}
    {rule : Operator → Rule} {right : Operand} (all : ComparesAll shape property rule right)
    {op : Operator} (mem : op ∈ Operator.comparisons) {c : Comparison}
    (isFor : c.IsFor ⟨shape, property, rule op⟩) (e : Entity) :
    c.predicate property (rule op).allowsNull e
      = decide (op ∉ Operator.failing (property.read e) (right.read e)) := by
  have same := all.operator op mem
  have strict := isFor.strict (same.symm ▸ mem) (all.operand op mem) e
  rw [all.strict op mem, strict]
  exact congrArg (fun op => decide (op ∉ Operator.failing _ _)) same

/-- The laws among the verdicts of the six operators on two values. -/
structure ConsistentVerdicts (left right : Value) (passes : Operator → Bool) : Prop where
  /-- Values in an order pass exactly one of `>`, `==` and `<`, and the others follow. -/
  ordered : ∀ o, left.compare? right = some o →
    [passes .greaterThan, passes .equal, passes .lessThan].count true = 1 ∧
      passes .greaterThanOrEqual = (passes .greaterThan || passes .equal) ∧
      passes .lessThanOrEqual = (passes .lessThan || passes .equal) ∧
      passes .lessThanOrEqual = !passes .greaterThan ∧
      passes .greaterThanOrEqual = !passes .lessThan ∧
      passes .notEqual = !passes .equal
  /-- Values without an order differ, and pass nothing else. -/
  unordered : left.isNull = false → right.isNull = false → left.compare? right = none →
    (∀ op ∈ Relation.operators, passes op = false) ∧
      passes .equal = false ∧ passes .notEqual = true
  /-- An absent value has no order; it equals an absent one and differs from all others. -/
  absent : left.isNull = true ∨ right.isNull = true →
    (∀ op ∈ Relation.operators, passes op = false) ∧
      passes .equal = (left.isNull && right.isNull) ∧
      passes .notEqual = !(left.isNull && right.isNull)
  /-- What fails is the pattern of the two values. -/
  pattern : Operator.comparisons.filter (fun op => !passes op) = Operator.failing left right

section Laws

variable {left right : Value} {passes : Operator → Bool}

theorem Operator.failing_of_present (present : (left.isNull && right.isNull) = false) :
    failing left right = failingAt (left.compare? right) := by
  rw [failing, present]
  rfl

theorem Operator.failing_of_absent (absent : (left.isNull && right.isNull) = true) :
    failing left right =
      [.greaterThan, .greaterThanOrEqual, .lessThan, .lessThanOrEqual, .notEqual] := by
  rw [failing, absent]
  rfl

/-- Without an order, no ordering operator passes. -/
theorem Operator.orderings_failing (silent : left.compare? right = none) :
    ∀ op ∈ Relation.operators, op ∈ failing left right := by
  unfold failing
  rw [silent]
  split <;> decide

/-- Of all six operators, those that fail are the pattern. -/
theorem filter_failing
    (decided : ∀ op ∈ Operator.comparisons, passes op = decide (op ∉ Operator.failing left right)) :
    Operator.comparisons.filter (fun op => !passes op) = Operator.failing left right := by
  have same : Operator.comparisons.filter (fun op => !passes op)
      = Operator.comparisons.filter (fun op => decide (op ∈ Operator.failing left right)) :=
    List.filter_congr fun op mem => by simp [decided op mem]
  rw [same]
  unfold Operator.failing
  split
  · decide
  · rcases left.compare? right with _ | (_ | _ | _) <;> decide

/-- Verdicts that go by the pattern are consistent. -/
theorem consistent_of_decided
    (decided : ∀ op ∈ Operator.comparisons, passes op = decide (op ∉ Operator.failing left right)) :
    ConsistentVerdicts left right passes := by
  have greater := decided .greaterThan (by decide)
  have greaterOrEqual := decided .greaterThanOrEqual (by decide)
  have less := decided .lessThan (by decide)
  have lessOrEqual := decided .lessThanOrEqual (by decide)
  have equal := decided .equal (by decide)
  have notEqual := decided .notEqual (by decide)
  have orderings (silent : left.compare? right = none) (op : Operator)
      (mem : op ∈ Relation.operators) : passes op = false := by
    have compares : ∀ op ∈ Relation.operators, op ∈ Operator.comparisons := by decide
    rw [decided op (compares op mem)]
    simpa using Operator.orderings_failing silent op mem
  refine ⟨fun o order => ?_, fun here there silent => ?_, fun absent => ?_, filter_failing decided⟩
  · obtain ⟨here, there⟩ := Value.present_of_compare? order
    have pattern : Operator.failing left right = Operator.failingAt (some o) := by
      rw [Operator.failing_of_present (by rw [here, there]; rfl), order]
    rw [greater, greaterOrEqual, less, lessOrEqual, equal, notEqual, pattern]
    cases o <;> decide
  · have pattern : Operator.failing left right = Operator.failingAt none := by
      rw [Operator.failing_of_present (by rw [here, there]; rfl), silent]
    rw [equal, notEqual, pattern]
    exact ⟨orderings silent, by decide, by decide⟩
  · have silent : left.compare? right = none :=
      (left.compare?_eq_none_iff right).mpr (absent.imp_right .inl)
    refine ⟨orderings silent, ?_⟩
    rw [equal, notEqual]
    cases both : left.isNull && right.isNull with
    | true =>
      rw [Operator.failing_of_absent both]
      decide
    | false =>
      rw [Operator.failing_of_present both, silent]
      decide

end Laws

/-- If the built-in handlers bind all six comparisons of a property with one operand, none of them
lenient, then for every entity the verdicts are consistent with each other and with the order of the
two values, which determines the ones that fail unless both values are absent.  So it is in every
rule set that declares all six, wherever it has them; if it has no other rules, the pattern is what
it reports. -/
theorem comparisons_consistent [Patterns] (shape : Shape) (property : Property)
    (rule : Operator → Rule) (right : Operand) (all : ComparesAll shape property rule right)
    (p : Operator → Predicate)
    (bound : ∀ op ∈ Operator.comparisons, ∃ h : Handler, h.IsBuiltin op ∧
      h.build ⟨shape, property, rule op⟩ = .done (.ok (p op))) :
    (∀ e, ConsistentVerdicts (property.read e) (right.read e) fun op => p op e) ∧
      ∀ catalog g type set (place : Operator → Nat), catalog.shape type = shape →
        shape.property? property.name = some property →
        (∀ op ∈ Operator.comparisons,
          Engine.HasBuiltinRule catalog g type set (place op) property.name (rule op)) →
        ∃ r : Operator → BoundRule,
          (∀ op ∈ Operator.comparisons, set.rules[place op]? = some (r op)) ∧
            ∀ e, ConsistentVerdicts (property.read e) (right.read e) (fun op => (r op).holds e) ∧
              (set.rules = Operator.comparisons.map r → failuresOf .all e set.rules =
                (Operator.failing (property.read e) (right.read e)).map fun op =>
                  (r op).failure) := by
  constructor
  · refine fun e => consistent_of_decided fun op mem => ?_
    obtain ⟨h, builtin, built⟩ := bound op mem
    obtain ⟨c, isFor, same⟩ := Handler.IsBuiltin.comparison_of_build
      ((all.operator op mem).symm ▸ builtin) built
    rw [same]
    exact all.decided mem isFor e
  · intro catalog g type set place shape_eq found has
    have each : ∀ op ∈ Operator.comparisons, ∃ r, set.rules[place op]? = some r ∧
        ∀ e, r.holds e = decide (op ∉ Operator.failing (property.read e) (right.read e)) := by
      intro op mem
      obtain ⟨property', c, r, found', at_place, isFor, predicate⟩ := (has op mem).comparison
      rw [shape_eq] at found' isFor
      obtain rfl : property = property' := Option.some.inj (found.symm.trans found')
      refine ⟨r, at_place, fun e => ?_⟩
      rw [BoundRule.holds, predicate]
      exact all.decided mem isFor e
    obtain ⟨first, -⟩ := each .greaterThan (by decide)
    have : Nonempty BoundRule := ⟨first⟩
    choose! r at_place holds using each
    refine ⟨r, at_place, fun e => ?_⟩
    have consistent := consistent_of_decided fun op mem => holds op mem e
    refine ⟨consistent, fun declared => ?_⟩
    rw [declared, failuresOf_all, List.filter_map, List.map_map]
    exact congrArg (List.map fun op => (r op).failure) consistent.pattern

/-! ### Pairs -/

/-- Pairs of integers, either of which may be absent. -/
def pairShape : Shape := ⟨"Pair", [⟨"left", 0, .int, true⟩, ⟨"right", 1, .int, true⟩]⟩

/-- Pairs with all six comparisons of the left value with the right one. -/
def pairs : Catalog where
  shape _ := pairShape
  definition _ := .ofSteps
    [⟨"left", Operator.comparisons.map fun op => .rule (.withSibling op "right")⟩]
  entries := []
  standardModule := "standard"

/-- Both handlers of comparisons are registered, and pairs are bound. -/
def pairRun : List Request :=
  [.register (.ordering "Ordering"), .register (.equality "Equality"),
    .bind ⟨"Pair"⟩ ⟨"PairRules"⟩]

/-- In the rule set of pairs, the six rules are consistent on every pair.  Of a pair in order, of
one without an order, and of one that is empty, other rules fail. -/
theorem comparisons_consistent_pairs :
    let left : Property := ⟨"left", 0, .int, true⟩
    let right : Operand := .property ⟨"right", 1, .int, true⟩
    let g := ((Engine.ofSettings pairs { builtinHandlers := false }).run pairs pairRun).2
    ComparesAll pairShape left (.withSibling · "right") right ∧
      ∃ (p : Operator → Predicate) (set : RuleSet),
        (g.ruleSet pairs ⟨"Pair"⟩).1 = .ok set ∧
        (∀ e, ConsistentVerdicts (left.read e) (right.read e) fun op => p op e) ∧
        ∃ r : Operator → BoundRule,
          (∀ op ∈ Operator.comparisons,
            set.rules[Operator.comparisons.idxOf op]? = some (r op)) ∧
          (∀ e, ConsistentVerdicts (left.read e) (right.read e) fun op => (r op).holds e) ∧
          let failing (e : Entity) := Operator.comparisons.filter fun op => !(r op).holds e
          let ascending := Entity.ofList [.int 1, .int 2]
          let mixed := Entity.ofList [.int 1, .text "two"]
          (left.read ascending).compare? (right.read ascending) = some .lt ∧
            failing ascending = [.greaterThan, .greaterThanOrEqual, .equal] ∧
            (left.read mixed).compare? (right.read mixed) = none ∧
            failing mixed
              = [.greaterThan, .greaterThanOrEqual, .lessThan, .lessThanOrEqual, .equal] ∧
            failing (.ofList [.null, .null])
              = [.greaterThan, .greaterThanOrEqual, .lessThan, .lessThanOrEqual, .notEqual] ∧
            (set.evaluate .all ascending).failures.map (·.message)
              = ["left must be greater than right", "left must be greater than or equal to right",
                "left must equal right"] := by
  intro left right g
  have all : ComparesAll pairShape left (.withSibling · "right") right :=
    ⟨fun _ _ => rfl, fun _ _ => rfl, fun _ _ => rfl⟩
  have each : ∀ op ∈ Operator.comparisons, ∃ p, ∃ h : Handler, h.IsBuiltin op ∧
      h.build ⟨pairShape, left, .withSibling op "right"⟩ = .done (.ok p) ∧
      g.registry.resolve op = some h ∧
      (pairs.definition ⟨"PairRules"⟩).declaredRules[Operator.comparisons.idxOf op]?
        = some ("left", .withSibling op "right") := by
    intro op mem
    simp only [Operator.comparisons, List.mem_cons, List.not_mem_nil, or_false] at mem
    rcases mem with rfl | rfl | rfl | rfl | rfl | rfl
    · exact ⟨_, _, .ordering "Ordering" (by decide), rfl, rfl, rfl⟩
    · exact ⟨_, _, .ordering "Ordering" (by decide), rfl, rfl, rfl⟩
    · exact ⟨_, _, .ordering "Ordering" (by decide), rfl, rfl, rfl⟩
    · exact ⟨_, _, .ordering "Ordering" (by decide), rfl, rfl, rfl⟩
    · exact ⟨_, _, .equality "Equality" (by decide), rfl, rfl, rfl⟩
    · exact ⟨_, _, .equality "Equality" (by decide), rfl, rfl, rfl⟩
  have : Nonempty Predicate := ⟨fun _ => true⟩
  choose! p h builtin built routed declared using each
  obtain ⟨set, answered⟩ : ∃ set, (g.ruleSet pairs ⟨"Pair"⟩).1 = .ok set := ⟨_, rfl⟩
  obtain ⟨verdicts, rules⟩ := comparisons_consistent pairShape left _ right all p
    fun op mem => ⟨h op mem, builtin op mem, built op mem⟩
  have has : ∀ op ∈ Operator.comparisons, Engine.HasBuiltinRule pairs g ⟨"Pair"⟩ set
      (Operator.comparisons.idxOf op) "left" (.withSibling op "right") := fun op mem =>
    { reachable := ⟨_, pairRun, rfl⟩
      answered := answered
      declared := ⟨⟨"PairRules"⟩, rfl, declared op mem⟩
      routed := ⟨h op mem, routed op mem, builtin op mem⟩ }
  obtain ⟨r, at_place, holds⟩ := rules pairs g ⟨"Pair"⟩ set _ rfl rfl has
  refine ⟨all, p, set, answered, verdicts, r, at_place, fun e => (holds e).1, ?_⟩
  intro failing ascending mixed
  have pattern (e : Entity) : failing e = Operator.failing (left.read e) (right.read e) :=
    (holds e).1.pattern
  refine ⟨by decide, (pattern _).trans (by decide), by decide, (pattern _).trans (by decide),
    (pattern _).trans (by decide), ?_⟩
  cases answered
  decide +kernel

end Rulebook
