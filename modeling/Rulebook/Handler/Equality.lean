/-
Rulebook.Handler.Equality — the operators `==` and `!=`.

All comparable kinds are accepted, truth values too, and so is the absent
constant.  Without leniency two absent operands are equal and an absent one
differs from a present one; a lenient rule passes as soon as one is absent.
-/
import Rulebook.Handler.Basic

namespace Rulebook.Equality

/-- The operators that the handler claims. -/
def operators : List Operator := [.equal, .notEqual]

/-- The verdict on two operand values; `negated` asks for a difference. -/
def verdict (negated allowsNull : Bool) (left right : Value) : Bool :=
  if allowsNull && (left.isNull || right.isNull) then true
  else left.looselyEquals right != negated

/-- Binds a rule once it is known whether a difference is asked for. -/
def bindAs (negated : Bool) (t : Target) : Except Refusal Predicate :=
  match t.operand with
  | .error e => .error e
  | .ok right =>
    let predicate : Predicate := fun e =>
      verdict negated t.rule.allowsNull (t.property.read e) (right.read e)
    match right.kind? with
    | none => .ok predicate
    | some kind =>
      if !t.property.kind.isComparableWith kind then
        .error (.incompatibleOperand t.property.kind kind)
      else .ok predicate

/-- Binds a rule: the operator is checked first, then the operand and its kind. -/
def bind (t : Target) : Except Refusal Predicate :=
  if t.rule.operator = .equal then bindAs false t
  else if t.rule.operator = .notEqual then bindAs true t
  else .error (.unsupportedOperand "not an equality operator")

/-- The default text, such as `confirmation must equal password`. -/
def defaultMessage (t : Target) : String :=
  let verb := if t.rule.operator = .notEqual then "must not equal" else "must equal"
  t.property.name ++ " " ++ verb ++ " " ++ t.operandText

end Equality

/-- The handler of the equality operators. -/
def Handler.equality (type : TypeId) : Handler :=
  .direct type type.name Equality.operators Equality.bind Equality.defaultMessage

end Rulebook
