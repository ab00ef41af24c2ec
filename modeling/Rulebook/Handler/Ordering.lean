/-
Rulebook.Handler.Ordering — the ordering operators `>`, `>=`, `<`, `<=`.

Both operands must have comparable kinds with an order.  An absent operand
passes exactly when the rule allows it, and operands without an order between
them, such as what is not a number, fail.
-/
import Rulebook.Handler.Basic

namespace Rulebook

/-- The four ordering operators. -/
inductive Relation
  | greater
  | greaterOrEqual
  | less
  | lessOrEqual
deriving DecidableEq, Repr

namespace Relation

/-- The operators that the handler claims. -/
def operators : List Operator :=
  [.greaterThan, .greaterThanOrEqual, .lessThan, .lessThanOrEqual]

/-- The relation that an operator names. -/
def ofOperator? (op : Operator) : Option Relation :=
  if op = .greaterThan then some .greater
  else if op = .greaterThanOrEqual then some .greaterOrEqual
  else if op = .lessThan then some .less
  else if op = .lessThanOrEqual then some .lessOrEqual
  else none

/-- Whether the relation holds between operands in the given order. -/
def holds : Relation → Ordering → Bool
  | .greater, o => o == .gt
  | .greaterOrEqual, o => o != .lt
  | .less, o => o == .lt
  | .lessOrEqual, o => o != .gt

/-- The relation in words. -/
def phrase : Relation → String
  | .greater => "greater than"
  | .greaterOrEqual => "greater than or equal to"
  | .less => "less than"
  | .lessOrEqual => "less than or equal to"

/-- The verdict on two operand values. -/
def verdict (r : Relation) (allowsNull : Bool) (left right : Value) : Bool :=
  if left.isNull || right.isNull then allowsNull
  else match left.compare? right with
    | some o => r.holds o
    | none => false

/-- Binds a rule: the operator, then the left kind, then the operand and its kind are checked. -/
def bind (t : Target) : Except Refusal Predicate :=
  match ofOperator? t.rule.operator with
  | none => .error (.unsupportedOperand "not an ordering operator")
  | some relation =>
    if !t.property.kind.isOrdered then .error (.unsupportedKind t.property.kind)
    else match t.operand with
      | .error e => .error e
      | .ok right =>
        match right.kind? with
        | none => .error (.invalidConstant "null cannot be ordered against")
        | some kind =>
          if !t.property.kind.isComparableWith kind then
            .error (.incompatibleOperand t.property.kind kind)
          else .ok fun e => relation.verdict t.rule.allowsNull (t.property.read e) (right.read e)

/-- The default text, such as `end must be greater than start`. -/
def defaultMessage (t : Target) : String :=
  let phrase := match ofOperator? t.rule.operator with
    | some relation => relation.phrase
    | none => "comparable to"
  t.property.name ++ " must be " ++ phrase ++ " " ++ t.operandText

end Relation

/-- The handler of the ordering operators. -/
def Handler.ordering (type : TypeId) : Handler :=
  .direct type type.name Relation.operators Relation.bind Relation.defaultMessage

end Rulebook
