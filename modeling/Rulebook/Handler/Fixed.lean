/-
Rulebook.Handler.Fixed — handlers whose rules all get the same verdict.

They bind every rule, look at nothing, and may claim any operators, among them
ones that other handlers claim as well, the same one twice, or none.
-/
import Rulebook.Handler.Basic

namespace Rulebook

/-- The handler that gives one verdict on every entity. -/
def Handler.fixed (type : TypeId) (operators : List Operator) (verdict : Bool) : Handler :=
  .direct type type.name operators (fun _ => .ok fun _ => verdict) Target.failedText

end Rulebook
