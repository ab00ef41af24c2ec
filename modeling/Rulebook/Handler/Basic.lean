/-
Rulebook.Handler.Basic — what a handler sees of a rule, and what it makes of it.

A handler claims operators.  For a rule with such an operator it gets a
`Target`, and builds a predicate or refuses.  On the way it may ask for the
rule sets of other entity types; `Build` is therefore a dialogue that ends with
a predicate or a refusal, and a handler that asks nothing answers at once.
-/
import Rulebook.RuleSet

namespace Rulebook

/-! ## 1. Targets and operands -/

/-- A rule, the property that it is declared for, and the shape around it. -/
structure Target where
  shape : Shape
  property : Property
  rule : Rule

/-- The right-hand side of a comparison. -/
inductive Operand
  | property (p : Property)
  | constant (v : Value)
deriving DecidableEq, Repr

namespace Operand

/-- The static kind; the absent constant has none. -/
def kind? : Operand → Option Kind
  | .property p => some p.kind
  | .constant v => v.kind?

/-- The value for one entity. -/
def read : Operand → Entity → Value
  | .property p, e => p.read e
  | .constant v, _ => v

/-- How default messages name the operand. -/
def describe : Operand → String
  | .property p => p.name
  | .constant v => v.display

end Operand

namespace Target

/-- The right operand of the rule; a constant takes precedence over a sibling. -/
def operand (t : Target) : Except Refusal Operand :=
  match t.rule.constant with
  | some v => .ok (.constant v)
  | none =>
    match t.rule.sibling with
    | none => .error .missingOperand
    | some name =>
      match t.shape.property? name with
      | none => .error (.unknownSibling name)
      | some p => .ok (.property p)

/-- The operand as messages name it, or a question mark where there is none. -/
def operandText (t : Target) : String :=
  match t.operand with
  | .ok o => o.describe
  | .error _ => "?"

/-- The text reported for rules whose handler has no wording of its own. -/
def failedText (t : Target) : String :=
  t.property.name ++ " failed the '" ++ t.rule.operator.name ++ "' rule"

end Target

/-! ## 2. Handlers -/

/-- What a handler learns when it asks for the rule set of an entity type. -/
inductive Answer
  /-- Rules are being bound without an engine around them. -/
  | noEngine
  /-- The rule set is being compiled, and this handler's rule is part of that. -/
  | inProgress
  /-- The engine's answer. -/
  | outcome (result : Except Misconfiguration RuleSet)

/-- The course of binding one rule. -/
inductive Build
  /-- A predicate or a refusal. -/
  | done (result : Except Refusal Predicate)
  /-- A request for the rule set of an entity type. -/
  | ask (type : EntityType) (next : Answer → Build)

/-- Builds predicates for the operators it claims. -/
structure Handler where
  /-- The handler's type, which tells handlers apart. -/
  type : TypeId
  /-- The name used in diagnostics. -/
  name : String
  /-- The claimed operators, in order. -/
  operators : List Operator
  /-- Binds one rule. -/
  build : Target → Build
  /-- The text reported on failure when the rule has none. -/
  defaultMessage : Target → String

/-- The full name of the handler's type. -/
def Handler.typeName (h : Handler) : String := h.type.name

/-- A call of a handler, with what it has returned. -/
inductive HandlerCall
  /-- The handler was to bind the rule of a target. -/
  | build (h : Handler) (t : Target) (result : Except Refusal Predicate)
  /-- The handler was to word a rule that has no text of its own. -/
  | defaultMessage (h : Handler) (t : Target) (text : String)

/-- A handler that never asks for other rule sets. -/
def Handler.direct (type : TypeId) (name : String) (operators : List Operator)
    (bind : Target → Except Refusal Predicate)
    (defaultMessage : Target → String) : Handler where
  type := type
  name := name
  operators := operators
  build := fun t => .done (bind t)
  defaultMessage := defaultMessage

end Rulebook
