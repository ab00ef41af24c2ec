/-
Rulebook.Entity.Shape — what rules can read from an entity.

An entity is read by position.  A `Shape` lists, for one type of entity, the
names under which its properties are known, with the position, the kind and
the nullability of each; looking a name up finds the first property so named.
-/
import Rulebook.Value.Basic

namespace Rulebook

/-! ## 1. Types -/

/-- A type: its full name, as it is printed, and a number that tells it from other types of that
name. -/
structure TypeId where
  name : String
  number : Nat := 0
deriving DecidableEq, Repr, Inhabited

/-- Mostly a type is the only one of its name. -/
instance : Coe String TypeId := ⟨fun name => { name }⟩

/-- A type of entities. -/
structure EntityType where
  id : TypeId
deriving DecidableEq, Repr, Inhabited

/-- The full name of the type. -/
def EntityType.name (type : EntityType) : String := type.id.name

/-! ## 2. Entities and shapes -/

/-- An entity, as far as rules are concerned: a value at every position. -/
def Entity := Nat → Value

/-- The entity with the given values at the first positions, and nothing beyond them. -/
def Entity.ofList (values : List Value) : Entity := fun i => values.getD i .null

/-- One readable property of a type of entities. -/
structure Property where
  name : String
  index : Nat
  kind : Kind
  nullable : Bool
deriving DecidableEq, Repr, Inhabited

/-- The value of the property in an entity. -/
def Property.read (p : Property) (e : Entity) : Value := e p.index

/-- The properties of a type of entities, in declaration order, under the type's short name. -/
structure Shape where
  typeName : String
  properties : List Property
deriving DecidableEq, Repr, Inhabited

/-- The first property with the given name. -/
def Shape.property? (s : Shape) (name : String) : Option Property :=
  s.properties.find? fun p => p.name == name

end Rulebook
