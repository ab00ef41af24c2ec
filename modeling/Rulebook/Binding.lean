/-
Rulebook.Binding — which metadata type governs an entity type.

A binding is made once and stays.
-/
import Rulebook.Misconfiguration
import Rulebook.FiniteMap

namespace Rulebook

/-- The metadata types that entity types are bound to. -/
structure Bindings where
  table : FiniteMap EntityType MetadataType := ∅

namespace Bindings

/-- No bindings. -/
def empty : Bindings := {}

/-- Binds an entity type, unless it is bound already. -/
def bind (b : Bindings) (e : EntityType) (m : MetadataType) : Except Misconfiguration Bindings :=
  match b.table.get? e with
  | some existing => .error (.duplicateBinding e existing m)
  | none => .ok ⟨b.table.insert e m⟩

/-- The metadata type that an entity type is bound to. -/
def lookup (b : Bindings) (e : EntityType) : Except Misconfiguration MetadataType :=
  match b.table.get? e with
  | some m => .ok m
  | none => .error (.missingBinding e)

/-- Whether an entity type is bound. -/
def isBound (b : Bindings) (e : EntityType) : Bool := b.table.contains e

/-- The number of bound entity types. -/
def size (b : Bindings) : Nat := b.table.size

end Bindings
end Rulebook
