/-
Rulebook.Proofs.Engine.MirroredRules — a comparison of two properties can be
declared for either of them.

`end > start` and `start < end` say the same, but the handlers do not treat their
operands alike: only the kind of the left one is checked for having an order, and
integers against doubles are compared one way and the result turned round for the
other.  All the same both rules are bound or neither is, and where they are bound
they agree on every entity.

  §1 Operators — what is left of an operator when its operands are turned round.
  §2 Kinds     — what comparable kinds have in common.
  §3 Rules     — mirrored rules are equivalent.
-/
import Rulebook.Proofs.Engine.ComparisonKinds

namespace Rulebook

/-! ## 1. Operators -/

/-- The operator that says the same of operands turned round. -/
def Operator.mirrored (op : Operator) : Operator :=
  if op = .greaterThan then .lessThan
  else if op = .greaterThanOrEqual then .lessThanOrEqual
  else if op = .lessThan then .greaterThan
  else if op = .lessThanOrEqual then .greaterThanOrEqual
  else op

/-- The relation that says the same of operands turned round. -/
def Relation.mirrored : Relation → Relation
  | .greater => .less
  | .greaterOrEqual => .lessOrEqual
  | .less => .greater
  | .lessOrEqual => .greaterOrEqual

theorem Relation.holds_mirrored (relation : Relation) (o : Ordering) :
    relation.mirrored.holds o.swap = relation.holds o := by
  cases relation <;> cases o <;> rfl

/-- The judgement that says the same of operands turned round; texts are matched one way only. -/
def Judgement.mirrored : Judgement → Judgement
  | .ordering relation => .ordering relation.mirrored
  | .equality negated => .equality negated
  | .matching test => .matching test

theorem Judgement.operator_mirrored (j : Judgement) :
    j.mirrored.operator = j.operator.mirrored := by
  rcases j with (_ | _ | _ | _) | (_ | _) | test <;> simp only [mirrored, operator] <;> decide

/-- Comparing backwards by the mirrored operator comes to the same. -/
theorem Judgement.verdict_mirrored {j : Judgement} (unmatched : ∀ test, j ≠ .matching test)
    (allowsNull : Bool) (left right : Value) :
    j.mirrored.verdict allowsNull right left = j.verdict allowsNull left right := by
  cases j with
  | ordering relation =>
    simp only [mirrored, verdict, Relation.verdict]
    rw [Bool.or_comm, Value.compare?_swap left right]
    cases left.compare? right with
    | none => rfl
    | some o => simp only [Option.map_some, relation.holds_mirrored]
  | equality negated =>
    simp only [mirrored, verdict, Equality.verdict]
    rw [Bool.or_comm, Value.looselyEquals_comm]
  | matching test => exact absurd rfl (unmatched test)

/-! ## 2. Kinds -/

theorem Kind.isComparableWith_comm (k l : Kind) :
    k.isComparableWith l = l.isComparableWith k := by
  rw [Bool.eq_iff_iff, isComparableWith_iff, isComparableWith_iff, eq_comm]

/-- Of comparable kinds both are ordered or neither is. -/
theorem Kind.isOrdered_congr {k l : Kind} (comparable : k.isComparableWith l = true) :
    k.isOrdered = l.isOrdered := by
  rw [isComparableWith_iff] at comparable
  cases k <;> cases l <;> first | rfl | cases comparable

/-! ## 3. Rules -/

/-- The rules compare two properties of the shape with each other: one by an operator, and one, from
the other side, by the mirrored operator.  They are equally lenient; severity and wording are
free. -/
structure Mirrored (shape : Shape) (p q : Property) (rule rule' : Rule) : Prop where
  distinct : (shape.properties.map (·.name)).Nodup
  left : p ∈ shape.properties
  right : q ∈ shape.properties
  compares : rule.operator ∈ Operator.comparisons
  operator : rule'.operator = rule.operator.mirrored
  sibling : rule.constant = none ∧ rule.sibling = some q.name
  sibling' : rule'.constant = none ∧ rule'.sibling = some p.name
  allowsNull : rule'.allowsNull = rule.allowsNull

section Mirrored

variable {shape : Shape} {p q : Property} {rule rule' : Rule}

theorem Target.operand_of_sibling (distinct : (shape.properties.map (·.name)).Nodup)
    (mem : q ∈ shape.properties) (sibling : rule.constant = none ∧ rule.sibling = some q.name) :
    Target.operand ⟨shape, p, rule⟩ = .ok (.property q) := by
  unfold Target.operand
  simp only [sibling.1, sibling.2, Shape.property?_of_mem distinct mem]

theorem Operator.mirrored_mem {op : Operator} (compares : op ∈ comparisons) :
    op.mirrored ∈ comparisons ∧ (op.mirrored ∈ Relation.operators ↔ op ∈ Relation.operators) := by
  have all : ∀ op ∈ comparisons, op.mirrored ∈ comparisons ∧
      (op.mirrored ∈ Relation.operators ↔ op ∈ Relation.operators) := by decide
  exact all op compares

theorem Mirrored.operand (mirrored : Mirrored shape p q rule rule') :
    Target.operand ⟨shape, p, rule⟩ = .ok (.property q) ∧
      Target.operand ⟨shape, q, rule'⟩ = .ok (.property p) :=
  ⟨Target.operand_of_sibling mirrored.distinct mirrored.right mirrored.sibling,
    Target.operand_of_sibling mirrored.distinct mirrored.left mirrored.sibling'⟩

/-- What mirrored rules ask for is the same comparison from either side. -/
theorem Mirrored.predicate_eq [Patterns] (mirrored : Mirrored shape p q rule rule')
    {c c' : Comparison} (isFor : c.IsFor ⟨shape, p, rule⟩) (isFor' : c'.IsFor ⟨shape, q, rule'⟩)
    (e : Entity) :
    c.predicate p rule.allowsNull e = c'.predicate q rule'.allowsNull e := by
  have unmatched := isFor.unmatched mirrored.compares
  have operator : c.judgement.mirrored.operator = c'.judgement.operator := by
    rw [Judgement.operator_mirrored, isFor.operator, isFor'.operator, mirrored.operator]
  have judgement : c.judgement.mirrored = c'.judgement := by
    rcases Judgement.eq_of_operator_eq operator with same | ⟨test, -, same, -⟩
    · exact same
    · cases hj : c.judgement with
      | ordering relation => rw [hj] at same; cases same
      | equality negated => rw [hj] at same; cases same
      | matching test => exact absurd hj (unmatched test)
  have right : c.right = .property q := Except.ok.inj (isFor.operand.symm.trans mirrored.operand.1)
  have right' : c'.right = .property p :=
    Except.ok.inj (isFor'.operand.symm.trans mirrored.operand.2)
  unfold Comparison.predicate
  rw [← judgement, right, right', mirrored.allowsNull]
  exact (Judgement.verdict_mirrored unmatched _ _ _).symm

end Mirrored

/-- Of two mirrored rules the built-in handlers bind both or neither, depending on the kinds of the
two properties alone; and where they bind them, the rules agree on every entity, whatever its values
are. -/
theorem mirrored_rules [Patterns] (shape : Shape) (p q : Property) (rule rule' : Rule)
    (mirrored : Mirrored shape p q rule rule') (h h' : Handler)
    (builtin : h.IsBuiltin rule.operator) (builtin' : h'.IsBuiltin rule'.operator) :
    ((∃ f, h.build ⟨shape, p, rule⟩ = .done (.ok f)) ↔
        ∃ f, h'.build ⟨shape, q, rule'⟩ = .done (.ok f)) ∧
      ((∃ f, h.build ⟨shape, p, rule⟩ = .done (.ok f)) ↔
        p.kind.isComparableWith q.kind = true ∧
          (rule.operator ∈ Relation.operators → p.kind.isOrdered = true)) ∧
      ∀ f f', h.build ⟨shape, p, rule⟩ = .done (.ok f) →
        h'.build ⟨shape, q, rule'⟩ = .done (.ok f') → ∀ e, f e = f' e := by
  obtain ⟨compares', relational⟩ := Operator.mirrored_mem mirrored.compares
  rw [← mirrored.operator] at compares' relational
  have bound : (∃ f, h.build ⟨shape, p, rule⟩ = .done (.ok f)) ↔ _ :=
    builtin.binds_iff mirrored.compares mirrored.operand.1 rfl
  have bound' : (∃ f, h'.build ⟨shape, q, rule'⟩ = .done (.ok f)) ↔ _ :=
    builtin'.binds_iff compares' mirrored.operand.2 rfl
  refine ⟨?_, bound, ?_⟩
  · rw [bound, bound', Kind.isComparableWith_comm q.kind, relational]
    refine and_congr_right fun comparable => ?_
    rw [Kind.isOrdered_congr comparable]
  · intro f f' built built' e
    obtain ⟨c, isFor, rfl⟩ := Handler.IsBuiltin.comparison_of_build builtin built
    obtain ⟨c', isFor', rfl⟩ := Handler.IsBuiltin.comparison_of_build builtin' built'
    exact mirrored.predicate_eq isFor isFor' e

/-! ### Tanks -/

/-- Tanks hold whole units, up to a limit that need not be whole. -/
def tankShape : Shape :=
  ⟨"Tank", [⟨"content", 0, .int, false⟩, ⟨"limit", 1, .float, true⟩]⟩

/-- That a tank holds no more than its limit may be declared for its content or for its limit; the
two rules agree on every tank, on one without a limit and on one whose limit is not a number. -/
theorem mirrored_rules_tanks :
    let content : Property := ⟨"content", 0, .int, false⟩
    let limit : Property := ⟨"limit", 1, .float, true⟩
    let rule : Rule := .withSibling .lessThanOrEqual "limit"
    let rule' : Rule := .withSibling .greaterThanOrEqual "content"
    Mirrored tankShape content limit rule rule' ∧
      ∃ f f', (Handler.ordering "Ordering").build ⟨tankShape, content, rule⟩ = .done (.ok f) ∧
        (Handler.ordering "Ordering").build ⟨tankShape, limit, rule'⟩ = .done (.ok f') ∧
        (∀ e, f e = f' e) ∧
        f (Entity.ofList [.int 3, .float ⟨0x400c000000000000⟩]) = true ∧
        f (Entity.ofList [.int 3, .float ⟨0x7ff8000000000000⟩]) = false ∧
        f (Entity.ofList [.int 3, .null]) = false := by
  intro content limit rule rule'
  have mirrored : Mirrored tankShape content limit rule rule' :=
    { distinct := by decide
      left := by decide
      right := by decide
      compares := by decide
      operator := rfl
      sibling := ⟨rfl, rfl⟩
      sibling' := ⟨rfl, rfl⟩
      allowsNull := rfl }
  obtain ⟨both, condition, agree⟩ := mirrored_rules tankShape content limit rule rule' mirrored
    (.ordering "Ordering") (.ordering "Ordering") (.ordering _ (by decide))
    (.ordering _ (by decide))
  have kinds : content.kind.isComparableWith limit.kind = true ∧
      (rule.operator ∈ Relation.operators → content.kind.isOrdered = true) :=
    ⟨rfl, fun _ => rfl⟩
  obtain ⟨f, built⟩ := condition.mpr kinds
  obtain ⟨f', built'⟩ := both.mp ⟨f, built⟩
  refine ⟨mirrored, f, f', built, built', agree f f' built built', ?_⟩
  cases built
  decide +kernel

end Rulebook
