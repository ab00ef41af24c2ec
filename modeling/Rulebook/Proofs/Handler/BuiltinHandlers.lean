/-
Rulebook.Proofs.Handler.BuiltinHandlers — what the library's own handlers make
of a rule.

Three handlers claim the seven built-in operators.  Each of them first finds out
how the rule is to be judged and what its right operand is, and may refuse; none
of that depends on whether the rule is lenient with absent operands.  Only then
comes the predicate, which reads both operands and applies the judgement.

  §1 Judgements  — the judgement of each operator, and what leniency does to it.
  §2 Comparisons — judgement and operand, which the handlers find alike for a
                   rule and for its lenient counterpart.
  §3 Handlers    — the built-in handlers, one for each built-in operator.
-/
import Rulebook.Handler.Equality
import Rulebook.Handler.Patterns
import Rulebook.Handler.Ordering

namespace Rulebook

/-! ## 1. Judgements -/

/-- How a rule with a built-in operator judges its operands. -/
inductive Judgement
  | ordering (relation : Relation)
  | equality (negated : Bool)
  | matching (test : String → Bool)

namespace Judgement

/-- The operator that asks for the judgement. -/
def operator : Judgement → Operator
  | .ordering .greater => .greaterThan
  | .ordering .greaterOrEqual => .greaterThanOrEqual
  | .ordering .less => .lessThan
  | .ordering .lessOrEqual => .lessThanOrEqual
  | .equality false => .equal
  | .equality true => .notEqual
  | .matching _ => .matching

/-- Operators tell judgements apart, except for what is matched. -/
theorem eq_of_operator_eq {j j' : Judgement} (same : j.operator = j'.operator) :
    j = j' ∨ ∃ r r', j = .matching r ∧ j' = .matching r' := by
  rcases j with (_ | _ | _ | _) | (_ | _) | r <;> rcases j' with (_ | _ | _ | _) | (_ | _) | r' <;>
    first
    | exact .inl rfl
    | exact .inr ⟨r, r', rfl, rfl⟩
    | exact absurd same (by simp only [operator]; decide)

/-- The verdict on the values of both operands.  What a text is matched against is in the judgement
already. -/
def verdict : Judgement → Bool → Value → Value → Bool
  | .ordering relation, allowsNull, left, right => relation.verdict allowsNull left right
  | .equality negated, allowsNull, left, right => Equality.verdict negated allowsNull left right
  | .matching test, allowsNull, left, _ => Matching.verdict test allowsNull left

/-- The values that a property of the operator's kind may yield: for patterns texts, if any. -/
def Reads : Judgement → Value → Prop
  | .matching _, left => left.isNull = true ∨ ∃ s, left = .text s
  | _, _ => True

/-- A lenient rule passes where an operand is absent, and elsewhere judges as a strict one does. -/
theorem verdict_lenient (j : Judgement) {left right : Value} (reads : j.Reads left)
    (present : ∀ test, j = .matching test → right.isNull = false) :
    j.verdict true left right = (left.isNull || right.isNull || j.verdict false left right) := by
  cases j with
  | ordering relation =>
    simp only [verdict, Relation.verdict]
    cases left.isNull || right.isNull <;> rfl
  | equality negated =>
    simp only [verdict, Equality.verdict, Bool.true_and, Bool.false_and]
    cases left.isNull || right.isNull <;> rfl
  | matching test =>
    rw [present test rfl, Bool.or_false]
    rcases reads with absent | ⟨s, rfl⟩
    · cases left with
      | null => rfl
      | _ => cases absent
    · rfl

/-- A lenient rule passes where an operand is absent. -/
theorem verdict_of_absent (j : Judgement) {left right : Value}
    (present : ∀ test, j = .matching test → right.isNull = false)
    (absent : left.isNull = true ∨ right.isNull = true) : j.verdict true left right = true := by
  have reads : j.Reads left := by
    cases j with
    | ordering relation => trivial
    | equality negated => trivial
    | matching test => exact .inl (absent.resolve_right (Bool.eq_false_iff.mp (present test rfl)))
  rw [j.verdict_lenient reads present]
  rcases absent with absent | absent <;> simp [absent]

/-- Leniency makes no rule stricter, whatever the property yields. -/
theorem verdict_mono (j : Judgement) {left right : Value} (h : j.verdict false left right = true) :
    j.verdict true left right = true := by
  cases j with
  | ordering relation =>
    simp only [verdict, Relation.verdict] at h ⊢
    cases absent : left.isNull || right.isNull
    · rw [absent] at h
      exact h
    · rfl
  | equality negated =>
    simp only [verdict, Equality.verdict, Bool.true_and, Bool.false_and] at h ⊢
    cases left.isNull || right.isNull
    · exact h
    · rfl
  | matching test =>
    cases left with
    | text s => exact h
    | _ => rfl

end Judgement

/-- Every operator that the handler of relations claims names one. -/
theorem Relation.exists_of_mem {op : Operator} (claimed : op ∈ operators) :
    ∃ relation, ofOperator? op = some relation := by
  simp only [operators, List.mem_cons, List.not_mem_nil, or_false] at claimed
  rcases claimed with rfl | rfl | rfl | rfl <;> exact ⟨_, rfl⟩

/-- A relation is the judgement of the operator that names it. -/
theorem Relation.operator_of_ofOperator? {op : Operator} {relation : Relation}
    (named : ofOperator? op = some relation) : (Judgement.ordering relation).operator = op := by
  unfold ofOperator? at named
  split at named
  case isTrue same => rw [same, ← Option.some.inj named]; rfl
  split at named
  case isTrue same => rw [same, ← Option.some.inj named]; rfl
  split at named
  case isTrue same => rw [same, ← Option.some.inj named]; rfl
  split at named
  case isTrue same => rw [same, ← Option.some.inj named]; rfl
  case isFalse => cases named

/-! ## 2. Comparisons -/

/-- The target with leniency switched on or off. -/
def Target.lenient (on : Bool) (t : Target) : Target :=
  { t with rule := { t.rule with allowsNull := on } }

namespace Target

variable (on : Bool) (t : Target)

@[simp] theorem operand_lenient : (t.lenient on).operand = t.operand := rfl
@[simp] theorem property_lenient : (t.lenient on).property = t.property := rfl
@[simp] theorem operator_lenient : (t.lenient on).rule.operator = t.rule.operator := rfl
@[simp] theorem allowsNull_lenient : (t.lenient on).rule.allowsNull = on := rfl

/-- An operand that is a property is the sibling of a rule without a constant. -/
theorem sibling_of_operand {t : Target} {p : Property}
    (operand : t.operand = .ok (.property p)) :
    t.rule.constant = none ∧
      ∃ name, t.rule.sibling = some name ∧ t.shape.property? name = some p := by
  unfold Target.operand at operand
  split at operand
  · cases operand
  · rename_i unset
    split at operand
    · cases operand
    · rename_i name named
      split at operand
      · cases operand
      · rename_i found
        cases operand
        exact ⟨unset, name, named, found⟩

/-- There is no operand where none is given, or where the sibling is not in the shape. -/
theorem refusal_of_operand {t : Target} {reason : Refusal}
    (missing : t.operand = .error reason) :
    reason = .missingOperand ∨ ∃ name, reason = .unknownSibling name := by
  unfold Target.operand at missing
  split at missing
  · cases missing
  · split at missing
    · cases missing
      exact .inl rfl
    · split at missing
      · cases missing
        exact .inr ⟨_, rfl⟩
      · cases missing

/-- That there is no operand is no refusal for kinds. -/
theorem operand_ne_incompatible {t : Target} {reason : Refusal}
    (missing : t.operand = .error reason) (k l : Kind) : reason ≠ .incompatibleOperand k l := by
  rcases refusal_of_operand missing with rfl | ⟨name, rfl⟩ <;> exact nofun

end Target

/-- What is made of a rule before it matters whether absent operands pass. -/
structure Comparison where
  judgement : Judgement
  right : Operand

namespace Comparison

/-- The predicate on the values of a property. -/
def predicate (c : Comparison) (left : Property) (allowsNull : Bool) : Predicate :=
  fun e => c.judgement.verdict allowsNull (left.read e) (c.right.read e)

variable [Patterns]

/-- The comparison is the one that the rule asks for: it judges as the operator says, with the
operand of the rule, and patterns are compiled from constants. -/
structure IsFor (t : Target) (c : Comparison) : Prop where
  operator : c.judgement.operator = t.rule.operator
  operand : t.operand = .ok c.right
  pattern : ∀ test, c.judgement = .matching test →
    ∃ s, c.right = .constant (.text s) ∧ Patterns.compile s = .ok test

theorem isFor_lenient {t : Target} {c : Comparison} {on : Bool} :
    c.IsFor (t.lenient on) ↔ c.IsFor t :=
  ⟨fun h => ⟨h.operator, h.operand, h.pattern⟩, fun h => ⟨h.operator, h.operand, h.pattern⟩⟩

/-- What a text is matched against is present. -/
theorem IsFor.right_present {t : Target} {c : Comparison} (isFor : c.IsFor t) (e : Entity) :
    ∀ test, c.judgement = .matching test → (c.right.read e).isNull = false := by
  intro test matching
  obtain ⟨s, constant, -⟩ := isFor.pattern test matching
  rw [constant]
  rfl

/-- A rule asks for one comparison at most. -/
theorem IsFor.unique {t : Target} {c c' : Comparison} (isFor : c.IsFor t) (isFor' : c'.IsFor t) :
    c = c' := by
  obtain ⟨judgement, right⟩ := c
  obtain ⟨judgement', right'⟩ := c'
  obtain rfl : right = right' := Except.ok.inj (isFor.operand.symm.trans isFor'.operand)
  congr 1
  rcases Judgement.eq_of_operator_eq (isFor.operator.trans isFor'.operator.symm) with
    same | ⟨r, r', rfl, rfl⟩
  · exact same
  · obtain ⟨s, constant, compiled⟩ := isFor.pattern r rfl
    obtain ⟨s', constant', compiled'⟩ := isFor'.pattern r' rfl
    obtain rfl : s = s' := by simpa using constant.symm.trans constant'
    exact congrArg _ (Except.ok.inj (compiled.symm.trans compiled'))

end Comparison

section Binding

variable [Patterns]

/-- Binding comes to a refusal or to a comparison, and to the same for the lenient rule and the
strict one. -/
def Target.Compares (t : Target) (bind : Target → Except Refusal Predicate) : Prop :=
  ∃ x : Except Refusal Comparison,
    (∀ on, bind (t.lenient on) = x.map fun c => c.predicate t.property on) ∧
      ∀ c, x = .ok c → c.IsFor t

/-- How the binding of an ordering or of an equality ends, alike for the lenient rule and the strict
one: with a comparison of operands whose kinds compare, with a refusal because they do not, or with
a refusal for another reason. -/
inductive Target.Compared (t : Target) (bind : Target → Except Refusal Predicate) : Prop
  | bound (c : Comparison) (isFor : c.IsFor t)
      (unmatched : ∀ test, c.judgement ≠ .matching test)
      (comparable : ∀ kind, c.right.kind? = some kind →
        t.property.kind.isComparableWith kind = true)
      (ends : ∀ on, bind (t.lenient on) = .ok (c.predicate t.property on))
  | incompatible (right : Operand) (kind : Kind) (operand : t.operand = .ok right)
      (known : right.kind? = some kind)
      (apart : t.property.kind.isComparableWith kind = false)
      (ends : ∀ on, bind (t.lenient on) = .error (.incompatibleOperand t.property.kind kind))
  | refused (reason : Refusal) (other : ∀ k l, reason ≠ .incompatibleOperand k l)
      (ends : ∀ on, bind (t.lenient on) = .error reason)

variable {t : Target} {bind : Target → Except Refusal Predicate}

theorem compares_of_refused (reason : Refusal)
    (refused : ∀ on, bind (t.lenient on) = .error reason) : t.Compares bind :=
  ⟨.error reason, refused, fun _ same => nomatch same⟩

theorem Comparison.IsFor.compares {c : Comparison} (isFor : c.IsFor t)
    (bound : ∀ on, bind (t.lenient on) = .ok (c.predicate t.property on)) : t.Compares bind :=
  ⟨.ok c, bound, fun _ same => Except.ok.inj same ▸ isFor⟩

theorem Target.Compared.compares (compared : t.Compared bind) : t.Compares bind := by
  cases compared with
  | bound c isFor _ _ ends => exact isFor.compares ends
  | incompatible right kind _ _ _ ends => exact compares_of_refused _ ends
  | refused reason _ ends => exact compares_of_refused reason ends

theorem Relation.compared (t : Target) : t.Compared Relation.bind := by
  cases named : ofOperator? t.rule.operator with
  | none =>
    refine .refused (.unsupportedOperand "not an ordering operator") (fun _ _ => nofun) ?_
    intro on
    simp [bind, named]
  | some relation =>
    cases ordered : t.property.kind.isOrdered with
    | false =>
      refine .refused (.unsupportedKind t.property.kind) (fun _ _ => nofun) ?_
      intro on
      simp [bind, named, ordered]
    | true =>
      cases operand : t.operand with
      | error e =>
        refine .refused e (Target.operand_ne_incompatible operand) ?_
        intro on
        simp [bind, named, ordered, operand]
      | ok right =>
        cases known : right.kind? with
        | none =>
          refine .refused (.invalidConstant "null cannot be ordered against") (fun _ _ => nofun) ?_
          intro on
          simp [bind, named, ordered, operand, known]
        | some kind =>
          cases comparable : t.property.kind.isComparableWith kind with
          | false =>
            refine .incompatible right kind operand known comparable ?_
            intro on
            simp [bind, named, ordered, operand, known, comparable]
          | true =>
            have isFor : Comparison.IsFor t ⟨.ordering relation, right⟩ :=
              ⟨operator_of_ofOperator? named, operand, fun _ other => nomatch other⟩
            refine .bound _ isFor (fun _ => nofun) ?_ ?_
            · intro kind' known'
              obtain rfl : kind = kind' := Option.some.inj (known.symm.trans known')
              exact comparable
            · intro on
              simp [bind, named, ordered, operand, known, comparable]
              rfl

/-- Equality, once it is known whether a difference is asked for. -/
theorem Equality.compared_bindAs {t : Target} (negated : Bool)
    (operator : (Judgement.equality negated).operator = t.rule.operator)
    (routed : ∀ on, bind (t.lenient on) = bindAs negated (t.lenient on)) : t.Compared bind := by
  cases operand : t.operand with
  | error e =>
    refine .refused e (Target.operand_ne_incompatible operand) ?_
    intro on
    simp [routed, bindAs, operand]
  | ok right =>
    have isFor : Comparison.IsFor t ⟨.equality negated, right⟩ :=
      ⟨operator, operand, fun _ other => nomatch other⟩
    cases known : right.kind? with
    | none =>
      refine .bound _ isFor (fun _ => nofun) (fun _ some => nomatch known.symm.trans some) ?_
      intro on
      simp [routed, bindAs, operand, known]
      rfl
    | some kind =>
      cases comparable : t.property.kind.isComparableWith kind with
      | false =>
        refine .incompatible right kind operand known comparable ?_
        intro on
        simp [routed, bindAs, operand, known, comparable]
      | true =>
        refine .bound _ isFor (fun _ => nofun) ?_ ?_
        · intro kind' known'
          obtain rfl : kind = kind' := Option.some.inj (known.symm.trans known')
          exact comparable
        · intro on
          simp [routed, bindAs, operand, known, comparable]
          rfl

theorem Equality.compared (t : Target) : t.Compared Equality.bind := by
  by_cases equal : t.rule.operator = .equal
  · exact compared_bindAs false equal.symm fun on => by simp [bind, equal]
  · by_cases different : t.rule.operator = .notEqual
    · have apart : Operator.notEqual ≠ .equal := by decide
      exact compared_bindAs true different.symm fun on => by simp [bind, different, apart]
    · refine .refused (.unsupportedOperand "not an equality operator") (fun _ _ => nofun) ?_
      intro on
      simp [bind, equal, different]

theorem Matching.pattern_eq_ok {operand : Operand} {test : String → Bool}
    (compiled : pattern operand = .ok test) :
    ∃ s, operand = .constant (.text s) ∧ Patterns.compile s = .ok test := by
  cases operand with
  | property p => cases compiled
  | constant v =>
    cases v with
    | text s =>
      refine ⟨s, rfl, ?_⟩
      unfold pattern at compiled
      dsimp only at compiled
      cases result : Patterns.compile s with
      | error fault => rw [result] at compiled; cases compiled
      | ok r => rw [result] at compiled; cases compiled; rfl
    | _ => cases compiled

theorem Matching.compares {t : Target} (operator : t.rule.operator = .matching) :
    t.Compares Matching.bind := by
  by_cases text : t.property.kind = .text
  · cases operand : t.operand with
    | error e => exact compares_of_refused e fun on => by simp [bind, text, operand]
    | ok right =>
      cases compiled : pattern right with
      | error e => exact compares_of_refused e fun on => by simp [bind, text, operand, compiled]
      | ok test =>
        have isFor : Comparison.IsFor t ⟨.matching test, right⟩ := by
          refine ⟨operator.symm, operand, ?_⟩
          rintro _ ⟨⟩
          exact pattern_eq_ok compiled
        exact isFor.compares fun on => by
          simp [bind, text, operand, compiled]
          rfl
  · exact compares_of_refused (.unsupportedKind t.property.kind) fun on => by simp [bind, text]

end Binding

/-! ## 3. Handlers -/

section Handlers

variable [Patterns]

/-- The handler is the library's own one for the operator, of any type. -/
inductive Handler.IsBuiltin : Operator → Handler → Prop
  | ordering {op : Operator} (type : TypeId) (claimed : op ∈ Relation.operators) :
      IsBuiltin op (.ordering type)
  | equality {op : Operator} (type : TypeId) (claimed : op ∈ Equality.operators) :
      IsBuiltin op (.equality type)
  | matching {op : Operator} (type : TypeId) (claimed : op ∈ Matching.operators) :
      IsBuiltin op (.matching type)

namespace Handler.IsBuiltin

variable {h : Handler} {t : Target}

theorem direct {op : Operator} (builtin : h.IsBuiltin op) (t : Target) :
    ∃ result, h.build t = .done result := by
  cases builtin <;> exact ⟨_, rfl⟩

/-- A built-in handler answers at once, with a refusal or with the predicate of a comparison, and
finds the same whether the rule is lenient or not. -/
theorem build_lenient (builtin : h.IsBuiltin t.rule.operator) :
    ∃ x : Except Refusal Comparison,
      (∀ on, h.build (t.lenient on) = .done (x.map fun c => c.predicate t.property on)) ∧
        ∀ c, x = .ok c → c.IsFor t := by
  cases builtin with
  | ordering type _ =>
    obtain ⟨x, bound, isFor⟩ := (Relation.compared t).compares
    exact ⟨x, fun on => congrArg Build.done (bound on), isFor⟩
  | equality type _ =>
    obtain ⟨x, bound, isFor⟩ := (Equality.compared t).compares
    exact ⟨x, fun on => congrArg Build.done (bound on), isFor⟩
  | matching type claimed =>
    obtain ⟨x, bound, isFor⟩ := Matching.compares (List.mem_singleton.mp claimed)
    exact ⟨x, fun on => congrArg Build.done (bound on), isFor⟩

/-- What a built-in handler binds is the predicate of a comparison. -/
theorem comparison_of_build (builtin : h.IsBuiltin t.rule.operator) {p : Predicate}
    (bound : h.build t = .done (.ok p)) :
    ∃ c : Comparison, c.IsFor t ∧ p = c.predicate t.property t.rule.allowsNull := by
  obtain ⟨x, found, isFor⟩ := builtin.build_lenient
  have same :
      Build.done (.ok p) = .done (x.map fun c => c.predicate t.property t.rule.allowsNull) :=
    bound.symm.trans (found t.rule.allowsNull)
  cases x with
  | error e => cases same
  | ok c => exact ⟨c, isFor c rfl, Except.ok.inj (Build.done.inj same)⟩

end Handler.IsBuiltin

end Handlers
end Rulebook
