/-
Rulebook.Value.Kind — the static kinds that properties and constants have.

Two kinds can be compared when they are equal or both numeric, and every kind
but truth values has an order that the ordering operators accept.
-/

namespace Rulebook

/-- The kind of a value, known before any entity is read. -/
inductive Kind
  | bool
  | int
  | float
  | text
  | date
  | dateTime
deriving DecidableEq, Repr, Inhabited

namespace Kind

/-- All kinds, in the order in which lists of kinds are given. -/
def all : List Kind := [.bool, .int, .float, .text, .date, .dateTime]

/-- Integers and doubles. -/
def isNumeric : Kind → Bool
  | .int | .float => true
  | _ => false

/-- The kinds that `<`, `<=`, `>` and `>=` accept. -/
def isOrdered : Kind → Bool
  | .bool => false
  | _ => true

/-- Whether values of the two kinds can be compared. -/
def isComparableWith (a b : Kind) : Bool := a == b || (a.isNumeric && b.isNumeric)

/-- The name that diagnostics use. -/
def name : Kind → String
  | .bool => "bool"
  | .int => "int"
  | .float => "float"
  | .text => "text"
  | .date => "date"
  | .dateTime => "datetime"

/-- The name in serialised data, where words are joined by underscores. -/
def tag : Kind → String
  | .dateTime => "date_time"
  | kind => kind.name

end Kind
end Rulebook
