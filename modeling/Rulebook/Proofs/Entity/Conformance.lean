/-
Rulebook.Proofs.Entity.Conformance — entities that keep what their shape promises.

A shape declares a kind for each property, and rules are bound to the declared
kinds.  What an entity yields may be absent, and may be of another kind that
compares with the declared one: a wide integer is declared as an integer and reads
as a double where 64 bits do not hold it.

  §1 Kinds    — kinds compare where they share a scale.
  §2 Entities — conforming to a shape.
  §3 Records  — every record conforms to the shape that its fields make.
-/
import Rulebook.Entity.Record

namespace Rulebook

/-! ## 1. Kinds -/

namespace Kind

/-- What kinds are compared on: integers and doubles on one scale, every other kind on its own. -/
def scale : Kind → Kind
  | .float => .int
  | kind => kind

/-- Kinds compare exactly if they share a scale. -/
theorem isComparableWith_iff {k l : Kind} : k.isComparableWith l = true ↔ k.scale = l.scale := by
  cases k <;> cases l <;> decide

/-- Comparable kinds compare with the same kinds. -/
theorem isComparableWith_congr {k k' l l' : Kind} (left : k.isComparableWith k' = true)
    (right : l.isComparableWith l' = true) : k.isComparableWith l = k'.isComparableWith l' := by
  rw [isComparableWith_iff] at left right
  rw [Bool.eq_iff_iff, isComparableWith_iff, isComparableWith_iff, left, right]

end Kind

/-! ## 2. Entities -/

/-- The value is absent, or of a kind that compares with the given one. -/
def Value.Suits (v : Value) (kind : Kind) : Prop :=
  ∀ k, v.kind? = some k → k.isComparableWith kind = true

theorem Value.suits_null (kind : Kind) : Value.null.Suits kind := by
  intro k none
  cases none

theorem Value.suits_of_kind? {v : Value} {kind : Kind} (same : v.kind? = some kind) :
    v.Suits kind := by
  intro k found
  rw [same] at found
  cases found
  exact Kind.isComparableWith_iff.mpr rfl

/-- Integers of any size suit the kind of integers. -/
theorem Value.suits_ofInt (n : Int) : (Value.ofInt n).Suits .int := by
  intro k found
  unfold ofInt at found
  split at found <;> cases found <;> rfl

/-- The entity yields values that suit the kinds which the shape declares. -/
def Entity.Conforms (e : Entity) (shape : Shape) : Prop :=
  ∀ p ∈ shape.properties, (p.read e).Suits p.kind

/-! ## 3. Records -/

theorem Scalar.suits_read (s : Scalar) (x : s.Carrier) : (s.read x).Suits s.kind := by
  cases s with
  | int t => exact Value.suits_ofInt _
  | _ => exact Value.suits_of_kind? rfl

theorem FieldType.suits_read (t : FieldType) (x : t.Carrier) : (t.read x).Suits t.kind := by
  induction t with
  | scalar s => exact s.suits_read x
  | optional t ih =>
    cases x with
    | none => exact Value.suits_null _
    | some y => exact ih y

/-- The properties of fields stand where the values of a record are. -/
theorem Record.suits_value {fields : List Field} (r : Record fields) (start : Nat) :
    ∀ p ∈ Field.properties start fields,
      ∃ i, p.index = start + i ∧ (r.value i).Suits p.kind := by
  induction r generalizing start with
  | nil =>
    intro p mem
    cases mem
  | @cons f fs x rest ih =>
    intro p mem
    rcases List.mem_cons.mp mem with rfl | mem
    · exact ⟨0, rfl, f.type.suits_read x⟩
    · obtain ⟨i, index, suits⟩ := ih (start + 1) p mem
      exact ⟨i + 1, by omega, suits⟩

/-- Records conform to the shapes that their fields make. -/
theorem Record.conforms {fields : List Field} (r : Record fields) (typeName : String) :
    r.entity.Conforms (Field.shape typeName fields) := by
  intro p mem
  obtain ⟨i, index, suits⟩ := r.suits_value 0 p mem
  rw [Nat.zero_add] at index
  show (r.value p.index).Suits p.kind
  rwa [index]

end Rulebook
