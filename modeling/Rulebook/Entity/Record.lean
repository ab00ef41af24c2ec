/-
Rulebook.Entity.Record — entities given by a list of named, typed fields.

The shape of a record type and the values of its instances are two tables made
from one list of fields: the shape numbers the fields in order, and an instance
yields at each of these numbers the value of the field there.
-/
import Rulebook.Entity.Field
import Rulebook.Entity.Shape

namespace Rulebook

/-- A named field of a record type. -/
structure Field where
  name : String
  type : FieldType
deriving Repr

/-- The instances of a list of fields: one instance of each field's type. -/
inductive Record : List Field → Type
  | nil : Record []
  | cons {f : Field} {fs : List Field} (value : f.type.Carrier) (rest : Record fs) :
      Record (f :: fs)

/-- The properties of fields from position `start` on. -/
def Field.properties : Nat → List Field → List Property
  | _, [] => []
  | start, f :: fs => ⟨f.name, start, f.type.kind, f.type.nullable⟩ :: properties (start + 1) fs

/-- The shape of a record type: its fields in order, each at its own position. -/
def Field.shape (typeName : String) (fields : List Field) : Shape :=
  ⟨typeName, Field.properties 0 fields⟩

namespace Record

/-- The value at a position; nothing beyond the last field. -/
def value {fields : List Field} : Record fields → Nat → Value
  | .nil, _ => .null
  | @Record.cons f _ x _, 0 => f.type.read x
  | .cons _ rest, i + 1 => rest.value i

/-- The record as an entity. -/
def entity {fields : List Field} (r : Record fields) : Entity := r.value

end Record
end Rulebook
