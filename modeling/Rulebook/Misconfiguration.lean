/-
Rulebook.Misconfiguration — what can be wrong with what an engine was told.

Binding metadata and compiling rule sets fail with a `Misconfiguration`, which
names the entity type and, where a handler refused a rule, carries the reason.
An entity that fails a rule is no misconfiguration: that is what reports are for.
-/
import Rulebook.Definition
import Rulebook.Entity.Shape
import Rulebook.Refusal

namespace Rulebook

/-- Why metadata cannot be bound or a rule set cannot be compiled. -/
inductive Misconfiguration
  /-- The entity type has a binding already, which stays. -/
  | duplicateBinding (entity : EntityType) (existing attempted : MetadataType)
  /-- The entity type has no binding. -/
  | missingBinding (entity : EntityType)
  /-- No registered handler claims the operator. -/
  | handlerNotFound (operator : Operator) (entity : EntityType) (property : String)
  /-- The metadata declares a property that the shape does not have. -/
  | unknownProperty (entity : EntityType) (metadata : MetadataType) (property : String)
  /-- A handler refused a rule. -/
  | binding (entity : EntityType) (property : String) (operator : Operator) (reason : Refusal)
deriving DecidableEq, Repr

/-- The text of a misconfiguration. -/
def Misconfiguration.message : Misconfiguration → String
  | .duplicateBinding entity existing attempted =>
    "entity '" ++ entity.name ++ "' is already bound to metadata '" ++ existing.name ++
      "' (attempted '" ++ attempted.name ++ "')"
  | .missingBinding entity =>
    "unable to find rule metadata for entity '" ++ entity.name ++
      "'; bind it with bind_metadata first"
  | .handlerNotFound operator entity property =>
    "no handler registered for operator '" ++ operator.name ++ "' on '" ++ entity.name ++ "." ++
      property ++ "'"
  | .unknownProperty entity metadata property =>
    "metadata '" ++ metadata.name ++ "' declares property '" ++ property ++
      "' which does not exist on entity '" ++ entity.name ++ "'"
  | .binding entity property operator reason =>
    "cannot bind '" ++ operator.name ++ "' rule on '" ++ entity.name ++ "." ++ property ++ "': " ++
      reason.message

end Rulebook
