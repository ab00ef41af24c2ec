/-
Rulebook.Proofs.Engine.ComparisonKinds — what is found out about kinds when a
comparison is bound holds of the values when it is evaluated.

The handlers of the ordering and equality operators look at declared kinds, once;
the comparison looks at values, each time.  The two go by different tables, and a
property may yield values of another kind than it declares.  All the same, on
entities that conform to the shape a comparison that has been bound finds no order
only where a value is absent or not a number, and one that has been refused for its
kinds would never have found any.

  §1 Operands    — the values of a right operand suit its kind.
  §2 Values      — the order of values that suit kinds, and verdicts on them.
  §3 Binding     — which comparisons are bound, by the kinds of their operands.
  §4 Comparisons — bound and refused comparisons on entities that conform.
-/
import Rulebook.Proofs.Engine.ComparisonRules
import Rulebook.Proofs.Entity.Conformance

namespace Rulebook

/-! ## 1. Operands -/

/-- A sibling is a property of the shape. -/
theorem Target.mem_of_operand {t : Target} {p : Property}
    (operand : t.operand = .ok (.property p)) : p ∈ t.shape.properties := by
  obtain ⟨-, name, -, found⟩ := sibling_of_operand operand
  exact List.mem_of_find?_eq_some found

/-- On entities that conform to the shape, what the right operand reads as suits its kind; without a
kind it is absent. -/
theorem Target.suits_operand {t : Target} {right : Operand} (operand : t.operand = .ok right)
    {e : Entity} (conforms : e.Conforms t.shape) :
    (right.kind? = none → right.read e = .null) ∧
      ∀ kind, right.kind? = some kind → (right.read e).Suits kind := by
  cases right with
  | property p =>
    constructor
    · intro none
      cases none
    · intro kind known
      cases known
      exact conforms p (Target.mem_of_operand operand)
  | constant v =>
    constructor
    · intro none
      cases v <;> first | rfl | cases none
    · intro kind known
      exact Value.suits_of_kind? known

/-! ## 2. Values -/

/-- All judgements but matching are comparisons. -/
theorem Judgement.operator_mem_comparisons {j : Judgement}
    (unmatched : ∀ test, j ≠ .matching test) : j.operator ∈ Operator.comparisons := by
  cases j with
  | ordering relation => cases relation <;> decide
  | equality negated => cases negated <;> decide
  | matching test => exact absurd rfl (unmatched test)

/-- Where both values are present, a comparison passes if its operator does not fail at their order,
whether it is lenient or not. -/
theorem Judgement.verdict_of_present {j : Judgement} (unmatched : ∀ test, j ≠ .matching test)
    {left right : Value} (here : left.isNull = false) (there : right.isNull = false)
    (allowsNull : Bool) :
    j.verdict allowsNull left right
      = decide (j.operator ∉ Operator.failingAt (left.compare? right)) := by
  have strict := verdict_strict (operator_mem_comparisons unmatched) left right
  rw [Operator.failing, here, there] at strict
  cases allowsNull with
  | false => exact strict
  | true =>
    have reads : j.Reads left := by
      cases j with
      | ordering relation => trivial
      | equality negated => trivial
      | matching test => exact absurd rfl (unmatched test)
    rw [j.verdict_lenient reads fun _ _ => there, here, there]
    exact strict

section Kinds

variable {a b : Value} {k l : Kind}

/-- A value that is present has a kind. -/
theorem Value.exists_kind? (present : a.isNull = false) : ∃ kind, a.kind? = some kind := by
  cases a with
  | null => cases present
  | _ => exact ⟨_, rfl⟩

/-- The kinds of present values compare if the kinds that they suit do. -/
theorem Value.kindsCompare_of_suits (here : a.Suits k) (there : b.Suits l)
    (present : a.isNull = false) (present' : b.isNull = false) :
    a.kindsCompare b = k.isComparableWith l := by
  obtain ⟨kind, known⟩ := Value.exists_kind? present
  obtain ⟨kind', known'⟩ := Value.exists_kind? present'
  unfold kindsCompare
  rw [known, known']
  exact Kind.isComparableWith_congr (here kind known) (there kind' known')

/-- Present values that suit comparable kinds have an order, unless one is not a number. -/
theorem Value.isNaN_of_suits (here : a.Suits k) (there : b.Suits l)
    (comparable : k.isComparableWith l = true) (present : a.isNull = false)
    (present' : b.isNull = false) (unordered : a.compare? b = none) :
    a.isNaN = true ∨ b.isNaN = true := by
  have kinds := Value.kindsCompare_of_suits here there present present'
  rw [compare?_eq_none_iff, kinds, comparable, present, present'] at unordered
  simpa using unordered

/-- Values that suit kinds which do not compare have no order. -/
theorem Value.compare?_of_suits (here : a.Suits k) (there : b.Suits l)
    (apart : k.isComparableWith l = false) : a.compare? b = none := by
  rw [compare?_eq_none_iff]
  cases present : a.isNull with
  | true => exact .inl rfl
  | false =>
    cases present' : b.isNull with
    | true => exact .inr (.inl rfl)
    | false =>
      refine .inr (.inr (.inl ?_))
      rw [Value.kindsCompare_of_suits here there present present', apart]

end Kinds

/-! ## 3. Binding -/

section Binding

variable {t : Target} {right : Operand} {kind : Kind}

theorem Relation.binds_iff (claimed : t.rule.operator ∈ operators)
    (operand : t.operand = .ok right) (known : right.kind? = some kind) :
    (∃ f, bind t = .ok f) ↔
      t.property.kind.isComparableWith kind = true ∧ t.property.kind.isOrdered = true := by
  obtain ⟨relation, named⟩ := exists_of_mem claimed
  simp only [bind, named]
  cases ordered : t.property.kind.isOrdered with
  | false => simp
  | true =>
    simp only [operand, known]
    cases comparable : t.property.kind.isComparableWith kind with
    | false => simp
    | true => exact iff_of_true ⟨_, rfl⟩ ⟨rfl, trivial⟩

theorem Equality.binds_iff (claimed : t.rule.operator ∈ operators)
    (operand : t.operand = .ok right) (known : right.kind? = some kind) :
    (∃ f, bind t = .ok f) ↔ t.property.kind.isComparableWith kind = true := by
  have bound (negated : Bool) : (∃ f, bindAs negated t = .ok f) ↔
      t.property.kind.isComparableWith kind = true := by
    simp only [bindAs, operand, known]
    cases comparable : t.property.kind.isComparableWith kind with
    | false => simp
    | true => exact iff_of_true ⟨_, rfl⟩ rfl
  simp only [operators, List.mem_cons, List.not_mem_nil, or_false] at claimed
  rcases claimed with equal | different
  · rw [bind, if_pos equal]
    exact bound false
  · have apart : t.rule.operator ≠ .equal := by
      rw [different]
      decide
    rw [bind, if_neg apart, if_pos different]
    exact bound true

/-- A comparison with an operand of known kind is bound if the kinds compare, and have an order
where one is asked for. -/
theorem Handler.IsBuiltin.binds_iff [Patterns] {h : Handler}
    (builtin : h.IsBuiltin t.rule.operator) (compares : t.rule.operator ∈ Operator.comparisons)
    (operand : t.operand = .ok right) (known : right.kind? = some kind) :
    (∃ f, h.build t = .done (.ok f)) ↔
      t.property.kind.isComparableWith kind = true ∧
        (t.rule.operator ∈ Relation.operators → t.property.kind.isOrdered = true) := by
  cases builtin with
  | ordering type claimed =>
    have bound := Relation.binds_iff claimed operand known
    simpa [Handler.ordering, Handler.direct, claimed] using bound
  | equality type claimed =>
    have apart : ∀ op ∈ Equality.operators, op ∉ Relation.operators := by decide
    have bound := Equality.binds_iff claimed operand known
    simpa [Handler.equality, Handler.direct, apart _ claimed] using bound
  | matching type claimed =>
    have apart : ∀ op ∈ Matching.operators, op ∉ Operator.comparisons := by decide
    exact absurd compares (apart _ claimed)

end Binding

/-! ## 4. Comparisons -/

/-- What is asked for by a comparing operator is no matching. -/
theorem Comparison.IsFor.unmatched [Patterns] {t : Target} {c : Comparison}
    (isFor : c.IsFor t) (compares : t.rule.operator ∈ Operator.comparisons) :
    ∀ test, c.judgement ≠ .matching test := by
  intro test same
  have operator := isFor.operator
  rw [same] at operator
  have apart : Operator.matching ∉ Operator.comparisons := by decide
  have asked : Operator.matching = t.rule.operator := operator
  exact apart (asked ▸ compares)

/-- A bound comparison of present values, on an entity that conforms to the shape: there is an order
unless one value is not a number, and the verdict goes by the order. -/
theorem Comparison.IsFor.ordered [Patterns] {t : Target}
    (declared : t.property ∈ t.shape.properties) {c : Comparison} (isFor : c.IsFor t)
    (unmatched : ∀ test, c.judgement ≠ .matching test)
    (comparable : ∀ kind, c.right.kind? = some kind →
      t.property.kind.isComparableWith kind = true)
    {e : Entity} (conforms : e.Conforms t.shape) (here : (t.property.read e).isNull = false)
    (there : (c.right.read e).isNull = false) (allowsNull : Bool) :
    let order := (t.property.read e).compare? (c.right.read e)
    (order = none → (t.property.read e).isNaN = true ∨ (c.right.read e).isNaN = true) ∧
      c.predicate t.property allowsNull e
        = decide (t.rule.operator ∉ Operator.failingAt order) := by
  intro order
  obtain ⟨absent, suits⟩ := Target.suits_operand isFor.operand conforms
  constructor
  · intro unordered
    -- an operand without a kind is absent, and this one is present
    cases known : c.right.kind? with
    | none =>
      rw [absent known] at there
      cases there
    | some kind =>
      exact Value.isNaN_of_suits (conforms _ declared) (suits kind known) (comparable kind known)
        here there unordered
  · rw [← isFor.operator]
    exact Judgement.verdict_of_present unmatched here there allowsNull

/-- What either handler has found out about the kinds holds of the values of every entity that
conforms to the shape.  If a rule has been bound, two present values have an order unless one is not
a number, and the verdict goes by their order; if it has been refused for the kinds of its operands,
no values ever have an order. -/
theorem comparison_kinds (t : Target) (declared : t.property ∈ t.shape.properties) (h : Handler)
    (compares : ∃ type, h = .ordering type ∨ h = .equality type) :
    (∀ p, h.build t = .done (.ok p) → ∃ right, t.operand = .ok right ∧
      ∀ e, e.Conforms t.shape →
        let left := t.property.read e
        left.isNull = false → (right.read e).isNull = false →
          (left.compare? (right.read e) = none →
            left.isNaN = true ∨ (right.read e).isNaN = true) ∧
          p e = decide (t.rule.operator ∉ Operator.failingAt (left.compare? (right.read e)))) ∧
      ∀ k l, h.build t = .done (.error (.incompatibleOperand k l)) → k = t.property.kind ∧
        ∃ right, t.operand = .ok right ∧ right.kind? = some l ∧
          ∀ e, e.Conforms t.shape → (t.property.read e).compare? (right.read e) = none := by
  have compared : ∃ bind, h.build t = .done (bind t) ∧ t.Compared bind := by
    obtain ⟨type, rfl | rfl⟩ := compares
    · exact ⟨_, rfl, Relation.compared t⟩
    · exact ⟨_, rfl, Equality.compared t⟩
  obtain ⟨bind, answered, compared⟩ := compared
  rw [answered]
  cases compared with
  | bound c isFor unmatched comparable ends =>
    have result : bind t = .ok (c.predicate t.property t.rule.allowsNull) := ends _
    rw [result]
    constructor
    · rintro p ⟨⟩
      refine ⟨c.right, isFor.operand, ?_⟩
      intro e conforms left here there
      exact isFor.ordered declared unmatched comparable conforms here there t.rule.allowsNull
    · rintro k l ⟨⟩
  | incompatible right kind operand known apart ends =>
    have result : bind t = .error (.incompatibleOperand t.property.kind kind) :=
      ends t.rule.allowsNull
    rw [result]
    constructor
    · rintro p ⟨⟩
    · rintro k l ⟨⟩
      refine ⟨rfl, right, operand, known, ?_⟩
      intro e conforms
      obtain ⟨-, suits⟩ := Target.suits_operand operand conforms
      exact Value.compare?_of_suits (conforms _ declared) (suits kind known) apart
  | refused reason other ends =>
    have result : bind t = .error reason := ends t.rule.allowsNull
    rw [result]
    constructor
    · rintro p ⟨⟩
    · intro k l same
      exact absurd (Except.error.inj (Build.done.inj same)) (other k l)

/-! ### Accounts -/

/-- Accounts have an unsigned number, a limit and a holder. -/
def accountFields : List Field :=
  [⟨"number", .scalar (.int ⟨false, .w64⟩)⟩, ⟨"limit", .optional (.scalar .float64)⟩,
    ⟨"holder", .scalar .text⟩]

/-- An account whose number does not fit into a signed integer. -/
def account : Record accountFields :=
  .cons (⟨2 ^ 63, by decide, by decide⟩ : MachineInt ⟨false, .w64⟩)
    (.cons (some ⟨0x3ff0000000000000⟩ : Option Binary64) (.cons ("Ada" : String) .nil))

/-- A rule about the number of accounts. -/
def accountTarget (sibling : String) : Target where
  shape := Field.shape "Account" accountFields
  property := ⟨"number", 0, .int, false⟩
  rule := .withSibling .greaterThan sibling

/-- The number reads as a double, and compares with the limit all the same; with the holder it does
not, and the rule is refused. -/
theorem comparison_kinds_accounts :
    (∃ x, account.entity 0 = .float x) ∧
      (∃ p, (Handler.ordering "Ordering").build (accountTarget "limit") = .done (.ok p) ∧
        (account.entity 0).compare? (account.entity 1) ≠ none ∧
        p account.entity = decide (Operator.greaterThan ∉
          Operator.failingAt ((account.entity 0).compare? (account.entity 1)))) ∧
      (Handler.ordering "Ordering").build (accountTarget "holder")
        = .done (.error (.incompatibleOperand .int .text)) ∧
      (account.entity 0).compare? (account.entity 2) = none := by
  have conforms : account.entity.Conforms (Field.shape "Account" accountFields) :=
    account.conforms "Account"
  have declared : ∀ sibling,
      (accountTarget sibling).property ∈ (accountTarget sibling).shape.properties := by
    intro sibling
    exact List.mem_cons_self
  have bound : ∃ p, (Handler.ordering "Ordering").build (accountTarget "limit") = .done (.ok p) :=
    ⟨_, rfl⟩
  have refused : (Handler.ordering "Ordering").build (accountTarget "holder")
      = .done (.error (.incompatibleOperand .int .text)) := rfl
  obtain ⟨p, bound⟩ := bound
  obtain ⟨sound, -⟩ := comparison_kinds (accountTarget "limit") (declared _)
    (.ordering "Ordering") ⟨_, .inl rfl⟩
  obtain ⟨-, complete⟩ := comparison_kinds (accountTarget "holder") (declared _)
    (.ordering "Ordering") ⟨_, .inl rfl⟩
  obtain ⟨right, ⟨⟩, ordered⟩ := sound p bound
  obtain ⟨ordered, verdict⟩ := ordered account.entity conforms rfl rfl
  obtain ⟨-, right, ⟨⟩, -, unordered⟩ := complete _ _ refused
  refine ⟨⟨_, rfl⟩, ⟨p, bound, ?_, verdict⟩, refused, unordered account.entity conforms⟩
  intro none
  rcases ordered none with nan | nan <;> exact absurd nan (by decide)

end Rulebook
