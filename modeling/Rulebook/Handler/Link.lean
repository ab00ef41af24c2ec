/-
Rulebook.Handler.Link — rules that hold when another entity type can be compiled.

The operand is the position of an entity type in a list.  Binding asks for the
rule set of that type, and the verdict, once and for all, is whether there is
one.  A type whose own rules are being bound cannot be linked to.
-/
import Rulebook.Handler.Basic

namespace Rulebook

namespace Link

/-- Binds a link once the linked position is known; without an engine, or beyond the list,
nothing can be compiled. -/
def bindTo (types : List EntityType) (position : Int64) : Build :=
  let fixed (verdict : Bool) : Build := .done (.ok fun _ => verdict)
  if position < 0 then fixed false
  else match types[position.toInt.toNat]? with
    | none => fixed false
    | some type => .ask type fun
      | .noEngine => fixed false
      | .inProgress => .done (.error (.unsupportedOperand "recursive link"))
      | .outcome (.ok _) => fixed true
      | .outcome (.error _) => fixed false

/-- Binds a rule: the operand must be an integer constant. -/
def bind (types : List EntityType) (t : Target) : Build :=
  match t.operand with
  | .error e => .done (.error e)
  | .ok (.constant (.int position)) => bindTo types position
  | .ok _ => .done (.error (.unsupportedOperand "slot must be a constant"))

end Link

/-- The handler of links to the given entity types. -/
def Handler.link (type : TypeId) (types : List EntityType) : Handler where
  type := type
  name := type.name
  operators := [⟨"linked"⟩]
  build := Link.bind types
  defaultMessage := Target.failedText

end Rulebook
