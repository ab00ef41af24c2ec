/-
Rulebook.Refusal — why a handler refuses a rule.

A refusal is about one rule and the property it is declared for; which property
and which entity type that was is added by the compilation that was refused.
-/
import Rulebook.Value.Kind

namespace Rulebook

/-- Why a handler refuses a rule. -/
inductive Refusal
  /-- There is neither a sibling nor a constant. -/
  | missingOperand
  /-- The sibling is not a property of the shape. -/
  | unknownSibling (name : String)
  /-- The kinds of the two operands do not compare. -/
  | incompatibleOperand (property operand : Kind)
  /-- The handler does not take properties of this kind. -/
  | unsupportedKind (kind : Kind)
  /-- The handler does not take this form of operand. -/
  | unsupportedOperand (reason : String)
  /-- The constant is malformed for the operator. -/
  | invalidConstant (reason : String)
deriving DecidableEq, Repr

/-- The text of a refusal. -/
def Refusal.message : Refusal → String
  | .missingOperand =>
    "annotation has neither another property nor a constant to compare against"
  | .unknownSibling name => "sibling property '" ++ name ++ "' does not exist"
  | .incompatibleOperand property operand =>
    "cannot compare " ++ property.name ++ " with " ++ operand.name
  | .unsupportedKind kind => kind.name ++ " values are not supported by this operator"
  | .unsupportedOperand reason => "unsupported operand: " ++ reason
  | .invalidConstant reason => "invalid constant: " ++ reason

end Rulebook
