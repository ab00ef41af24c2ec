/-
Rulebook.Handler.Patterns — rules that a text matches a pattern.

The pattern is a text constant and is compiled once, when the rule is bound.
Values that are no texts, absent ones above all, pass exactly when the rule
allows absent values.  Which texts are patterns, and what they match, is not
settled here: whatever compiles patterns will do.
-/
import Rulebook.Handler.Basic

namespace Rulebook

/-- What compiles patterns. -/
class Patterns where
  /-- The test that a pattern puts texts to, or what is wrong with the pattern. -/
  compile : String → Except String (String → Bool)

namespace Matching

/-- The operators that the handler claims. -/
def operators : List Operator := [.matching]

/-- The verdict on a value. -/
def verdict (test : String → Bool) (allowsNull : Bool) : Value → Bool
  | .text s => test s
  | _ => allowsNull

/-- The default text, such as `zip does not match the required format`. -/
def defaultMessage (t : Target) : String :=
  t.property.name ++ " does not match the required format"

variable [Patterns]

/-- The test that an operand gives: a text constant that compiles. -/
def pattern : Operand → Except Refusal (String → Bool)
  | .constant (.text s) =>
    match Patterns.compile s with
    | .ok test => .ok test
    | .error fault => .error (.invalidConstant fault)
  | .constant v => .error (.invalidConstant ("pattern must be text, got " ++ v.display))
  | .property _ => .error (.unsupportedOperand "patterns must be constants")

/-- Binds a rule: the property must hold text, and the operand give a pattern. -/
def bind (t : Target) : Except Refusal Predicate :=
  if t.property.kind ≠ .text then .error (.unsupportedKind t.property.kind)
  else match t.operand with
    | .error e => .error e
    | .ok operand =>
      match pattern operand with
      | .error e => .error e
      | .ok test => .ok fun e => verdict test t.rule.allowsNull (t.property.read e)

end Matching

/-- The handler of patterns. -/
def Handler.matching [Patterns] (type : TypeId) : Handler :=
  .direct type type.name Matching.operators Matching.bind Matching.defaultMessage

end Rulebook
