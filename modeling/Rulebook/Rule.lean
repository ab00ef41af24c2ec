/-
Rulebook.Rule — rules as they are declared, before any entity type is known.

A declared rule names an operator, an operand and how a failure is reported.
It belongs to one property, which is its left operand; the right operand is a
sibling property or a constant, and the constant counts when both are given.
The operator is only a name here: what it means is up to the handler that
claims it.
-/
import Rulebook.Json.Decode
import Rulebook.Value.Text

namespace Rulebook

/-! ## 1. Operators -/

/-- The name of a comparison. -/
structure Operator where
  name : String
deriving DecidableEq, Repr, Inhabited

namespace Operator

def greaterThan : Operator := ⟨"greater_than"⟩
def greaterThanOrEqual : Operator := ⟨"greater_than_or_equal"⟩
def lessThan : Operator := ⟨"less_than"⟩
def lessThanOrEqual : Operator := ⟨"less_than_or_equal"⟩
def equal : Operator := ⟨"equal"⟩
def notEqual : Operator := ⟨"not_equal"⟩
def matching : Operator := ⟨"matches"⟩

/-- The operators that the library's own handlers claim. -/
def builtin : List Operator :=
  [greaterThan, greaterThanOrEqual, lessThan, lessThanOrEqual, equal, notEqual, matching]

/-- Whether the library's own handlers claim the operator. -/
def isBuiltin (op : Operator) : Bool := builtin.contains op

/-- Operators are ordered by the bytes of their names. -/
def le (a b : Operator) : Bool := (compare a.name b.name).isLE

/-- Operators in order. -/
def sorted (ops : List Operator) : List Operator := ops.mergeSort le

/-- The operator in serialised data: its name. -/
def json (op : Operator) : String := Json.quoted op.name

/-- Reads an operator from JSON text: any text names one. -/
def ofJson? : String → Option Operator := Json.decode? fun tree => tree.text?.map Operator.mk

end Operator

/-! ## 2. Severities -/

/-- How a failing rule is reported; whether it fails does not depend on it. -/
inductive Severity
  /-- Must be fixed. -/
  | error
  /-- Should be looked at. -/
  | warning
deriving DecidableEq, Repr, Inhabited

namespace Severity

/-- The name of a severity in serialised data. -/
def name : Severity → String
  | .error => "error"
  | .warning => "warning"

/-- A severity in serialised data. -/
def json (s : Severity) : String := Json.quoted s.name

/-- The severity that a tree names. -/
def ofTree? : Json.Tree → Option Severity :=
  Json.Tree.enumeration? ([error, warning].map fun severity => (severity.name, severity))

/-- Reads a severity from JSON text. -/
def ofJson? : String → Option Severity := Json.decode? ofTree?

end Severity

/-! ## 3. Rules -/

/-- A rule as declared for one property. -/
structure Rule where
  operator : Operator
  /-- The sibling property to compare with. -/
  sibling : Option String := none
  /-- The constant to compare with. -/
  constant : Option Value := none
  /-- Whether an absent operand passes. -/
  allowsNull : Bool := false
  severity : Severity := .error
  /-- The text reported on failure, if it is not left to the handler. -/
  message : Option String := none
deriving DecidableEq, Repr, Inhabited

namespace Rule

/-- The rule that compares a property with a sibling. -/
def withSibling (op : Operator) (name : String) : Rule := { operator := op, sibling := some name }

/-- The rule that a text property matches a pattern. -/
def matching (pattern : String) : Rule :=
  { operator := .matching, constant := some (.text pattern) }

/-- Equality of rules, where constants are equal as values. -/
def identical (a b : Rule) : Bool :=
  a.operator = b.operator && a.sibling = b.sibling && a.constant == b.constant &&
    a.allowsNull == b.allowsNull && a.severity = b.severity && a.message = b.message

end Rule
end Rulebook
