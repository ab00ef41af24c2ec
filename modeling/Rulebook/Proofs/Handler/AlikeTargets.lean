/-
Rulebook.Proofs.Handler.AlikeTargets — what a built-in handler cannot tell apart.

Of a target, the built-in handlers see the operator, the leniency, the name and the
kind of the property, and the operand; of an entity, what the property and the
operand read.  Where a property stands in the shape, what a rule says beside its
operand, and what else an entity holds are nothing to them.  Two targets that agree
in what is seen are refused alike, or bound to predicates that agree on entities
which read alike; and they get the same message.

  §1 Targets  — properties, operands and targets that are alike.
  §2 Handlers — one lemma for each built-in handler, and one for all of them.

Which entities read alike is a parameter, `rel`.
-/
import Rulebook.Proofs.Compilation.ParallelScans
import Rulebook.Proofs.Handler.BuiltinHandlers

namespace Rulebook

section Alike

variable (rel : Entity → Entity → Prop)

/-! ## 1. Targets -/

/-- The properties have the same name and kind, and read alike, be it from different positions. -/
structure Property.Alike (p p' : Property) : Prop where
  name : p'.name = p.name
  kind : p'.kind = p.kind
  read : ∀ e e', rel e e' → p'.read e' = p.read e

/-- The operands are the same constant, or properties that are alike. -/
inductive Operand.Alike : Operand → Operand → Prop
  | property {p p' : Property} (h : p.Alike rel p') : Alike (.property p) (.property p')
  | constant (v : Value) : Alike (.constant v) (.constant v)

/-- The predicates give the same verdicts. -/
def Predicate.Alike (f f' : Predicate) : Prop := ∀ e e', rel e e' → f' e' = f e

/-- The targets agree in all that a built-in handler sees. -/
structure Target.Alike (t t' : Target) : Prop where
  property : t.property.Alike rel t'.property
  operator : t'.rule.operator = t.rule.operator
  allowsNull : t'.rule.allowsNull = t.rule.allowsNull
  operand : Parallel Eq (Operand.Alike rel) t.operand t'.operand

/-- The rules ask for the same: by the same operator, of the same constant or else of the same
sibling, and with the same leniency. -/
structure Rule.AsksSame (r r' : Rule) : Prop where
  operator : r'.operator = r.operator
  allowsNull : r'.allowsNull = r.allowsNull
  constant : r'.constant = r.constant
  sibling : r.constant = none → r'.sibling = r.sibling

variable {rel}

theorem Property.Alike.of_eq {p p' : Property} (same : p = p') : p.Alike Eq p' := by
  subst same
  exact ⟨rfl, rfl, fun _ _ same => by rw [same]⟩

namespace Operand.Alike

variable {o o' : Operand}

theorem kind? (h : Operand.Alike rel o o') : o'.kind? = o.kind? := by
  cases h with
  | property h => exact congrArg some h.kind
  | constant v => rfl

theorem describe (h : Operand.Alike rel o o') : o'.describe = o.describe := by
  cases h with
  | property h => exact h.name
  | constant v => rfl

theorem read (h : Operand.Alike rel o o') {e e' : Entity} (related : rel e e') :
    o'.read e' = o.read e := by
  cases h with
  | property h => exact h.read e e' related
  | constant v => rfl

theorem pattern [Patterns] (h : Operand.Alike rel o o') :
    Matching.pattern o' = Matching.pattern o := by
  cases h <;> rfl

end Operand.Alike

/-- Rules that ask for the same have operands that are alike, where the shapes have properties that
are alike under every name. -/
theorem Target.operand_parallel {shape shape' : Shape} {p p' : Property} {r r' : Rule}
    (asks : r.AsksSame r')
    (found : ∀ name,
      Option.Rel (Property.Alike rel) (shape.property? name) (shape'.property? name)) :
    Parallel Eq (Operand.Alike rel) (operand ⟨shape, p, r⟩) (operand ⟨shape', p', r'⟩) := by
  unfold operand
  dsimp only
  rw [asks.constant]
  cases constant : r.constant with
  | some v => exact .ok (.constant v)
  | none =>
    rw [asks.sibling constant]
    cases r.sibling with
    | none => exact .error rfl
    | some name =>
      dsimp only
      have here := found name
      generalize shape.property? name = q, shape'.property? name = q' at here
      cases here with
      | none => exact .error rfl
      | some h => exact .ok (.property h)

namespace Target.Alike

variable {t t' : Target}

theorem of_rules {shape shape' : Shape} {p p' : Property} {r r' : Rule} (asks : r.AsksSame r')
    (property : p.Alike rel p')
    (found : ∀ name,
      Option.Rel (Property.Alike rel) (shape.property? name) (shape'.property? name)) :
    Target.Alike rel ⟨shape, p, r⟩ ⟨shape', p', r'⟩ :=
  ⟨property, asks.operator, asks.allowsNull, operand_parallel asks found⟩

theorem operandText (alike : t.Alike rel t') : t'.operandText = t.operandText := by
  unfold Target.operandText
  have operands := alike.operand
  generalize t.operand = o, t'.operand = o' at operands
  cases operands with
  | error _ => rfl
  | ok h => exact h.describe

end Target.Alike

/-! ## 2. Handlers -/

variable {t t' : Target}

theorem Relation.bind_parallel (alike : t.Alike rel t') :
    Parallel Eq (Predicate.Alike rel) (bind t) (bind t') := by
  unfold bind
  rw [alike.operator, alike.property.kind, alike.allowsNull]
  cases ofOperator? t.rule.operator with
  | none => exact .error rfl
  | some relation =>
    dsimp only
    cases t.property.kind.isOrdered with
    | false => exact .error rfl
    | true =>
      have operands := alike.operand
      generalize t.operand = o, t'.operand = o' at operands
      cases operands with
      | error h => exact .error h
      | @ok right right' h =>
        have predicates : Predicate.Alike rel
            (fun e => relation.verdict t.rule.allowsNull (t.property.read e) (right.read e))
            (fun e => relation.verdict t.rule.allowsNull (t'.property.read e) (right'.read e)) := by
          intro e e' related
          dsimp only
          rw [alike.property.read e e' related, h.read related]
        simp only [Bool.not_true, Bool.false_eq_true, if_false, h.kind?]
        cases right.kind? with
        | none => exact .error rfl
        | some kind =>
          dsimp only
          split
          · exact .error rfl
          · exact .ok predicates

theorem Equality.bindAs_parallel (negated : Bool) (alike : t.Alike rel t') :
    Parallel Eq (Predicate.Alike rel) (bindAs negated t) (bindAs negated t') := by
  unfold bindAs
  rw [alike.property.kind, alike.allowsNull]
  have operands := alike.operand
  generalize t.operand = o, t'.operand = o' at operands
  cases operands with
  | error h => exact .error h
  | @ok right right' h =>
    have predicates : Predicate.Alike rel
        (fun e => verdict negated t.rule.allowsNull (t.property.read e) (right.read e))
        (fun e => verdict negated t.rule.allowsNull (t'.property.read e) (right'.read e)) := by
      intro e e' related
      dsimp only
      rw [alike.property.read e e' related, h.read related]
    simp only [h.kind?]
    cases right.kind? with
    | none => exact .ok predicates
    | some kind =>
      dsimp only
      split
      · exact .error rfl
      · exact .ok predicates

theorem Equality.bind_parallel (alike : t.Alike rel t') :
    Parallel Eq (Predicate.Alike rel) (bind t) (bind t') := by
  unfold bind
  rw [alike.operator]
  split
  · exact bindAs_parallel false alike
  · split
    · exact bindAs_parallel true alike
    · exact .error rfl

theorem Matching.bind_parallel [Patterns] (alike : t.Alike rel t') :
    Parallel Eq (Predicate.Alike rel) (bind t) (bind t') := by
  unfold bind
  rw [alike.property.kind, alike.allowsNull]
  split
  · exact .error rfl
  · have operands := alike.operand
    generalize t.operand = o, t'.operand = o' at operands
    cases operands with
    | error h => exact .error h
    | @ok right right' h =>
      simp only [h.pattern]
      cases pattern right with
      | error e => exact .error rfl
      | ok test =>
        refine .ok fun e e' related => ?_
        rw [alike.property.read e e' related]

/-- Targets that are alike are refused alike or bound alike by a built-in handler, and are worded
alike. -/
theorem Handler.IsBuiltin.parallel [Patterns] {h : Handler} {op : Operator}
    (builtin : h.IsBuiltin op) (alike : t.Alike rel t') :
    Parallel Eq (Predicate.Alike rel) (h.build t).outcome (h.build t').outcome ∧
      h.defaultMessage t' = h.defaultMessage t := by
  cases builtin with
  | ordering type _ =>
    refine ⟨Relation.bind_parallel alike, ?_⟩
    change Relation.defaultMessage t' = Relation.defaultMessage t
    rw [Relation.defaultMessage, alike.operator, alike.property.name, alike.operandText]
    rfl
  | equality type _ =>
    refine ⟨Equality.bind_parallel alike, ?_⟩
    change Equality.defaultMessage t' = Equality.defaultMessage t
    rw [Equality.defaultMessage, alike.operator, alike.property.name, alike.operandText]
    rfl
  | matching type _ =>
    refine ⟨Matching.bind_parallel alike, ?_⟩
    change Matching.defaultMessage t' = Matching.defaultMessage t
    rw [Matching.defaultMessage, alike.property.name]
    rfl

end Alike
end Rulebook
