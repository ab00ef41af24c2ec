/-
Rulebook.Value.Basic — the values that entities yield and rules name as constants.

`Value.compare?` orders values of comparable kinds and stays silent on all
others; integers and doubles meet by their exact values.  `looselyEquals` adds
that nothing equals nothing, and `identical` is equality of the same variant
with equal content.
-/
import Rulebook.Number.Binary64
import Rulebook.Calendar
import Rulebook.Value.Kind

namespace Rulebook

/-- A property value or a rule's constant; `null` stands for an absent value. -/
inductive Value
  | null
  | bool (b : Bool)
  | int (n : Int64)
  | float (x : Binary64)
  | text (s : String)
  | date (d : Date)
  | dateTime (t : Instant)
deriving DecidableEq, Repr, Inhabited

namespace Value

/-- The kind of a value; an absent value has none. -/
def kind? : Value → Option Kind
  | .null => none
  | .bool _ => some .bool
  | .int _ => some .int
  | .float _ => some .float
  | .text _ => some .text
  | .date _ => some .date
  | .dateTime _ => some .dateTime

/-- Whether the value is absent. -/
def isNull : Value → Bool
  | .null => true
  | _ => false

/-- The content of a text value. -/
def text? : Value → Option String
  | .text s => some s
  | _ => none

/-- The order of two values of comparable kinds; there is none when either is absent,
when the kinds do not compare, or when a double is not a number.
Texts are ordered by their bytes, which for UTF-8 is the order of their code points. -/
def compare? : Value → Value → Option Ordering
  | .bool a, .bool b => some (compare a b)
  | .int a, .int b => some (compare a.toInt b.toInt)
  | .float a, .float b => a.compare? b
  | .int a, .float b => Binary64.compareInt? a b
  | .float a, .int b => (Binary64.compareInt? b a).map Ordering.swap
  | .text a, .text b => some (compare a b)
  | .date a, .date b => some (a.order b)
  | .dateTime a, .dateTime b => some (a.order b)
  | _, _ => none

/-- Equality across number kinds; an absent value equals only an absent value. -/
def looselyEquals : Value → Value → Bool
  | .null, .null => true
  | .null, _ => false
  | _, .null => false
  | a, b => a.compare? b == some .eq

/-- Same variant and equal content, where doubles are equal as numbers. -/
def identical : Value → Value → Bool
  | .float a, .float b => a.numericallyEqual b
  | a, b => a = b

instance : BEq Value := ⟨identical⟩

end Value
end Rulebook
