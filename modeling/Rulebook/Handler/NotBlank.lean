/-
Rulebook.Handler.NotBlank — rules that a text holds more than white space.
-/
import Rulebook.Handler.Basic
import Rulebook.Text.Blank

namespace Rulebook

namespace NotBlank

/-- Binds `not_blank`; values that are no texts pass exactly when the rule allows absent ones. -/
def bind (t : Target) : Except Refusal Predicate :=
  if t.property.kind ≠ .text then .error (.unsupportedKind t.property.kind)
  else .ok fun e =>
    match t.property.read e with
    | .text s => !Text.isBlank s
    | _ => t.rule.allowsNull

/-- The default text, such as `name must not be blank`. -/
def defaultMessage (t : Target) : String := t.property.name ++ " must not be blank"

end NotBlank

/-- The handler of rules against blank texts. -/
def Handler.notBlank (type : TypeId) (name : String) : Handler :=
  .direct type name [⟨"not_blank"⟩] NotBlank.bind NotBlank.defaultMessage

end Rulebook
