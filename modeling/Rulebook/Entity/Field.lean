/-
Rulebook.Entity.Field — the types that fields of an entity may have.

A field type is a scalar under any number of optional layers.  Each has a
carrier, the type of its instances, and three readings: the kind and the
nullability that a shape records, and the value that an instance reads as.

Integers of every width read as 64-bit integers where they fit and as the
nearest double where they do not.
-/
import Rulebook.Value.Basic

namespace Rulebook

/-! ## 1. Conversion to values -/

/-- Types whose elements convert to values. -/
class ToValue (α : Type) where
  toValue : α → Value

/-- An integer of any size: a 64-bit integer where it fits, otherwise the nearest double. -/
def Value.ofInt (n : Int) : Value :=
  if Int64.minValue.toInt ≤ n ∧ n ≤ Int64.maxValue.toInt then .int (Int64.ofInt n)
  else .float (Binary64.ofInt n)

/-- The machine widths of integers. -/
inductive IntWidth
  | w8
  | w16
  | w32
  | w64
  | w128
deriving DecidableEq, Repr

/-- The number of bits. -/
def IntWidth.bits : IntWidth → Nat
  | .w8 => 8
  | .w16 => 16
  | .w32 => 32
  | .w64 => 64
  | .w128 => 128

/-- A machine integer type. -/
structure IntType where
  signed : Bool
  width : IntWidth
deriving DecidableEq, Repr

namespace IntType

/-- The least integer of the type. -/
def low (t : IntType) : Int :=
  if t.signed then -(Nat.pow 2 (t.width.bits - 1) : Int) else 0

/-- One more than the greatest integer of the type. -/
def bound (t : IntType) : Int :=
  Nat.pow 2 (if t.signed then t.width.bits - 1 else t.width.bits)

theorem low_le_zero (t : IntType) : t.low ≤ 0 := by
  cases t with | mk signed width => cases signed <;> cases width <;> decide

theorem zero_lt_bound (t : IntType) : 0 < t.bound := by
  cases t with | mk signed width => cases signed <;> cases width <;> decide

end IntType

/-- The integers of a machine type. -/
structure MachineInt (t : IntType) where
  val : Int
  low_le : t.low ≤ val
  lt_bound : val < t.bound

/-- A single-precision number, held as its bit pattern. -/
structure Binary32 where
  bits : UInt32
deriving DecidableEq, Repr, Inhabited

instance (t : IntType) : ToValue (MachineInt t) := ⟨fun n => Value.ofInt n.val⟩
instance : ToValue Binary32 := ⟨fun x => .float (Binary64.ofBinary32 x.bits)⟩
instance : ToValue Binary64 := ⟨Value.float⟩
instance : ToValue Bool := ⟨Value.bool⟩
instance : ToValue String := ⟨Value.text⟩
instance : ToValue Date := ⟨Value.date⟩
instance : ToValue Instant := ⟨Value.dateTime⟩

instance {α : Type} [ToValue α] : ToValue (Option α) :=
  ⟨fun
    | none => .null
    | some a => ToValue.toValue a⟩

/-! ## 2. Scalars -/

/-- The types of fields without optional layers. -/
inductive Scalar
  | int (t : IntType)
  | float32
  | float64
  | bool
  | text
  | date
  | dateTime
deriving DecidableEq, Repr

namespace Scalar

/-- The instances of a scalar type. -/
def Carrier : Scalar → Type
  | .int t => MachineInt t
  | .float32 => Binary32
  | .float64 => Binary64
  | .bool => Bool
  | .text => String
  | .date => Date
  | .dateTime => Instant

/-- The kind of the values that instances read as, wide integers aside. -/
def kind : Scalar → Kind
  | .int _ => .int
  | .float32 => .float
  | .float64 => .float
  | .bool => .bool
  | .text => .text
  | .date => .date
  | .dateTime => .dateTime

/-- The value that an instance reads as. -/
def read : (s : Scalar) → s.Carrier → Value
  | .int t, n => ToValue.toValue (α := MachineInt t) n
  | .float32, x => ToValue.toValue (α := Binary32) x
  | .float64, x => ToValue.toValue (α := Binary64) x
  | .bool, b => ToValue.toValue (α := Bool) b
  | .text, s => ToValue.toValue (α := String) s
  | .date, d => ToValue.toValue (α := Date) d
  | .dateTime, t => ToValue.toValue (α := Instant) t

instance toValueCarrier : (s : Scalar) → ToValue s.Carrier
  | .int t => inferInstanceAs (ToValue (MachineInt t))
  | .float32 => inferInstanceAs (ToValue Binary32)
  | .float64 => inferInstanceAs (ToValue Binary64)
  | .bool => inferInstanceAs (ToValue Bool)
  | .text => inferInstanceAs (ToValue String)
  | .date => inferInstanceAs (ToValue Date)
  | .dateTime => inferInstanceAs (ToValue Instant)

/-- The instance that an unset field holds: zero, false, the empty text, the start of 1970. -/
def zero : (s : Scalar) → s.Carrier
  | .int t => (⟨0, t.low_le_zero, t.zero_lt_bound⟩ : MachineInt t)
  | .float32 => (⟨0⟩ : Binary32)
  | .float64 => (⟨0⟩ : Binary64)
  | .bool => false
  | .text => ""
  | .date => (⟨1970, 1, 1⟩ : Date)
  | .dateTime => (⟨0, 0⟩ : Instant)

end Scalar

/-! ## 3. Field types -/

/-- A scalar under any number of optional layers. -/
inductive FieldType
  | scalar (s : Scalar)
  | optional (t : FieldType)
deriving DecidableEq, Repr

namespace FieldType

/-- The instances of a field type. -/
def Carrier : FieldType → Type
  | .scalar s => s.Carrier
  | .optional t => Option t.Carrier

/-- The kind of the innermost type. -/
def kind : FieldType → Kind
  | .scalar s => s.kind
  | .optional t => t.kind

/-- Optional fields can be absent. -/
def nullable : FieldType → Bool
  | .scalar _ => false
  | .optional _ => true

/-- The value that an instance reads as; an absent layer reads as nothing. -/
def read : (t : FieldType) → t.Carrier → Value
  | .scalar s, x => s.read x
  | .optional t, x => match (x : Option t.Carrier) with
    | none => .null
    | some y => t.read y

/-- The conversion of instances that their types already have, layer by layer. -/
instance toValueCarrier : (t : FieldType) → ToValue t.Carrier
  | .scalar s => inferInstanceAs (ToValue s.Carrier)
  | .optional t =>
    have : ToValue t.Carrier := toValueCarrier t
    inferInstanceAs (ToValue (Option t.Carrier))

/-- The instance that an unset field holds. -/
def zero : (t : FieldType) → t.Carrier
  | .scalar s => s.zero
  | .optional t => (none : Option t.Carrier)

end FieldType
end Rulebook
