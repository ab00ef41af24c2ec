/-
Rulebook.Handler.Numeric — handlers for rules on integers: divisibility and parity.
-/
import Rulebook.Handler.Basic

namespace Rulebook

namespace Divisibility

/-- Binds `divisible_by`: the property must hold integers, the operand must be a non-zero one. -/
def bind (t : Target) : Except Refusal Predicate :=
  if t.property.kind ≠ .int then .error (.unsupportedKind t.property.kind)
  else match t.operand with
    | .error e => .error e
    | .ok (.property _) => .error (.unsupportedOperand "divisor must be a constant")
    | .ok (.constant v) =>
      match v with
      | .int d =>
        if d = 0 then
          .error (.invalidConstant ("divisor must be a non-zero integer, got " ++ v.display))
        else .ok fun e =>
          match t.property.read e with
          | .int n => decide (d.toInt ∣ n.toInt)
          | _ => false
      | _ => .error (.invalidConstant ("divisor must be a non-zero integer, got " ++ v.display))

end Divisibility

namespace Parity

/-- Binds `even`, which looks at the property alone. -/
def bind (t : Target) : Except Refusal Predicate :=
  .ok fun e =>
    match t.property.read e with
    | .int n => n.toInt % 2 == 0
    | _ => false

end Parity

/-- The handler of rules that ask for a multiple of a constant. -/
def Handler.divisibleBy (type : TypeId) : Handler :=
  .direct type type.name [⟨"divisible_by"⟩] Divisibility.bind Target.failedText

/-- The handler of rules that ask for an even integer. -/
def Handler.even (type : TypeId) : Handler :=
  .direct type type.name [⟨"even"⟩] Parity.bind Target.failedText

end Rulebook
