/-
Rulebook.Proofs.Entity.RecordShapes — what a record yields is what its shape declares.

The fields of a record type give rise to two tables: the shape lists properties,
each with a position, and a record is read by position.  Nothing but the position
ties the two together.  A field holds an instance of its type, which becomes a value
in two ways that are defined apart from each other: it is read as a property, along
the layers of its type, and it is converted, as each layer is converted by itself.

  §1 Layers  — both ways agree; a value is absent exactly if some layer is.
  §2 Kinds   — the kind of a value that is present, wide integers included.
  §3 Tables  — properties and values meet at every position.
  §4 Records — what a record yields for its fields, by position and by name.
-/
import Rulebook.Proofs.Entity.Conformance
import Rulebook.Proofs.Value.WideIntegers

namespace Rulebook

/-! ## 1. Layers -/

namespace Scalar

/-- Scalars are always present. -/
theorem read_ne_null (s : Scalar) (x : s.Carrier) : s.read x ≠ .null := by
  cases s with
  | int t =>
    show Value.ofInt _ ≠ .null
    unfold Value.ofInt
    split <;> exact Value.noConfusion
  | _ => exact Value.noConfusion

end Scalar

namespace FieldType

/-- Some layer of the instance holds nothing. -/
inductive Absent : (t : FieldType) → t.Carrier → Prop
  | here (t : FieldType) : Absent (.optional t) (none : Option t.Carrier)
  | inside {t : FieldType} {x : t.Carrier} (h : t.Absent x) :
      Absent (.optional t) (some x : Option t.Carrier)

/-- Instances are read as properties as they are converted, layer by layer. -/
theorem read_eq_toValue (t : FieldType) (x : t.Carrier) : t.read x = ToValue.toValue x := by
  induction t with
  | scalar s => cases s <;> rfl
  | optional t ih =>
    cases x with
    | none => rfl
    | some y => exact ih y

/-- An instance reads as nothing exactly if some layer holds nothing. -/
theorem read_eq_null_iff (t : FieldType) (x : t.Carrier) : t.read x = .null ↔ t.Absent x := by
  induction t with
  | scalar s => exact ⟨fun null => absurd null (s.read_ne_null x), nofun⟩
  | optional t ih =>
    cases x with
    | none => exact ⟨fun _ => .here t, fun _ => rfl⟩
    | some y =>
      refine (ih y).trans ⟨.inside, fun absent => ?_⟩
      cases absent with
      | inside h => exact h

/-- Only optional types have layers that may hold nothing. -/
theorem Absent.nullable {t : FieldType} {x : t.Carrier} (absent : t.Absent x) :
    t.nullable = true := by
  cases absent <;> rfl

end FieldType

/-! ## 2. Kinds -/

/-- The type has integers that 64 bits do not hold. -/
def IntType.IsWide (t : IntType) : Prop := ¬(-2 ^ 63 ≤ t.low ∧ t.bound ≤ 2 ^ 63)

instance (t : IntType) : Decidable t.IsWide := inferInstanceAs (Decidable ¬_)

/-- The value is a finite double that is not strictly between the ends of the 64-bit range. -/
def Value.IsOutsideInt64 (v : Value) : Prop :=
  ∃ x, v = .float x ∧ x.IsFinite ∧ (x.rational ≤ -2 ^ 63 ∨ 2 ^ 63 ≤ x.rational)

/-- A machine integer reads as an integer, or else, where its type is wide, as a double beyond
the range. -/
theorem MachineInt.kind?_toValue {t : IntType} (n : MachineInt t) :
    (ToValue.toValue n).kind? = some .int ∨
      t.IsWide ∧ (ToValue.toValue n).kind? = some .float ∧
        (ToValue.toValue n).IsOutsideInt64 := by
  by_cases fits : FitsInt64 n.val
  · obtain ⟨k, same, -⟩ := Value.ofInt_of_fits fits
    refine .inl ?_
    show (Value.ofInt n.val).kind? = _
    rw [same]
    rfl
  · have double : ToValue.toValue n = .float (Binary64.ofInt n.val) := Value.ofInt_of_not_fits fits
    -- an integer that does not fit shows that its type is wide
    refine .inr ⟨fun narrow => fits ?_, by rw [double]; rfl, _, double,
      (Binary64.isNearest_ofInt n.width).finite, ?_⟩
    · exact (fitsInt64_iff _).mpr ⟨narrow.1.trans n.low_le, n.lt_bound.trans_le narrow.2⟩
    · rcases Value.below_or_fits_or_above n.val with ⟨below, -⟩ | inside | ⟨above, -⟩
      · exact .inl (Value.ofInt_le n.width below)
      · exact absurd inside fits
      · exact .inr (Value.le_ofInt n.width above)

namespace FieldType

/-- The scalar below all layers. -/
def innermost : FieldType → Scalar
  | .scalar s => s
  | .optional t => t.innermost

theorem kind_innermost (t : FieldType) : t.innermost.kind = t.kind := by
  induction t with
  | scalar s => rfl
  | optional t ih => exact ih

/-- A value that is present has the kind of its type, wide integers aside. -/
theorem kind?_read (t : FieldType) (x : t.Carrier) {k : Kind}
    (present : (t.read x).kind? = some k) :
    k = t.kind ∨ (∃ n, t.innermost = .int n ∧ n.IsWide) ∧ k = .float ∧
      (t.read x).IsOutsideInt64 := by
  induction t with
  | scalar s =>
    cases s with
    | int n =>
      rcases MachineInt.kind?_toValue (t := n) x with int | ⟨wide, float, outside⟩
      · exact .inl (Option.some.inj (present.symm.trans int))
      · exact .inr ⟨⟨n, rfl, wide⟩, Option.some.inj (present.symm.trans float), outside⟩
    | _ => exact .inl (Option.some.inj present).symm
  | optional t ih =>
    cases x with
    | none => cases present
    | some y => exact ih y present

end FieldType

/-! ## 3. Tables -/

/-- What is declared of the field at a position. -/
def Field.property (f : Field) (index : Nat) : Property :=
  ⟨f.name, index, f.type.kind, f.type.nullable⟩

/-- The properties of fields are in the order of the fields, numbered from `start` on. -/
theorem Field.properties_eq_mapIdx (start : Nat) (fields : List Field) :
    properties start fields = fields.mapIdx fun i f => f.property (start + i) := by
  induction fields generalizing start with
  | nil => rfl
  | cons f fs ih =>
    have shifted (i : Nat) : start + 1 + i = start + (i + 1) := by omega
    simp only [properties, ih, List.mapIdx_cons, shifted]
    rfl

/-- The properties of a shape are those of its fields, each at its own position. -/
theorem Field.properties_shape (typeName : String) (fields : List Field) :
    (shape typeName fields).properties = fields.mapIdx fun i f => f.property i := by
  simp only [shape, properties_eq_mapIdx, Nat.zero_add]

/-- A name leads to the property of the first field that bears it. -/
theorem Field.property?_shape (typeName : String) (fields : List Field) (i : Fin fields.length)
    (first : ∀ j < i, (fields.get j).name ≠ (fields.get i).name) :
    (shape typeName fields).property? (fields.get i).name = some ((fields.get i).property i) := by
  rw [Shape.property?, properties_shape, List.find?_eq_some_iff_getElem]
  refine ⟨beq_self_eq_true _, i, by simp, by simp, fun j before => ?_⟩
  simpa [property] using first ⟨j, before.trans i.isLt⟩ before

namespace Record

/-- The instance that a record holds for the field at a position. -/
def get {fields : List Field} : Record fields → (i : Fin fields.length) →
    (fields.get i).type.Carrier
  | .cons x _, ⟨0, _⟩ => x
  | .cons _ rest, ⟨i + 1, inside⟩ => rest.get ⟨i, Nat.lt_of_succ_lt_succ inside⟩

/-- At the position of a field a record is read as the field is. -/
theorem value_eq_read {fields : List Field} (r : Record fields) (i : Fin fields.length) :
    r.value i = (fields.get i).type.read (r.get i) := by
  induction r with
  | nil => exact i.elim0
  | cons x rest ih =>
    cases i using Fin.cases with
    | zero => rfl
    | succ i => exact ih i

/-- There is nothing beyond the last field. -/
theorem value_of_length_le {fields : List Field} (r : Record fields) {i : Nat}
    (beyond : fields.length ≤ i) : r.value i = .null := by
  induction r generalizing i with
  | nil => rfl
  | cons x rest ih =>
    cases i with
    | zero => cases beyond
    | succ i => exact ih (Nat.le_of_succ_le_succ beyond)

end Record

/-! ## 4. Records -/

/-- What a property declares is kept by a value: it is absent only if that is allowed, and is
otherwise of the kind declared, or a double outside the range of integers. -/
structure Property.Admits (p : Property) (v : Value) : Prop where
  nullable : v = .null → p.nullable = true
  kind : ∀ k, v.kind? = some k → k = p.kind ∨ p.kind = .int ∧ k = .float ∧ v.IsOutsideInt64

/-- What a property admits suits its kind. -/
theorem Property.Admits.suits {p : Property} {v : Value} (admits : p.Admits v) :
    v.Suits p.kind := by
  intro k present
  rw [Kind.isComparableWith_iff]
  rcases admits.kind k present with rfl | ⟨int, rfl, -⟩
  · rfl
  · rw [int]
    rfl

/-- The value is what a field holds: as read, as converted, and absent or of a kind as the field's
type has it. -/
structure FieldType.Yields (t : FieldType) (x : t.Carrier) (v : Value) : Prop where
  read : v = t.read x
  converted : v = ToValue.toValue x
  null_iff : v = .null ↔ t.Absent x
  kind : ∀ k, v.kind? = some k →
    k = t.kind ∨ (∃ n, t.innermost = .int n ∧ n.IsWide) ∧ k = .float ∧ v.IsOutsideInt64

theorem FieldType.yields_read (t : FieldType) (x : t.Carrier) : t.Yields x (t.read x) where
  read := rfl
  converted := t.read_eq_toValue x
  null_iff := t.read_eq_null_iff x
  kind _ := t.kind?_read x

/-- What a field yields is admitted by the property declared for it. -/
theorem FieldType.Yields.admits {f : Field} {x : f.type.Carrier} {v : Value}
    (yields : f.type.Yields x v) (i : Nat) : (f.property i).Admits v where
  nullable null := (yields.null_iff.mp null).nullable
  kind k present := by
    rcases yields.kind k present with same | ⟨⟨n, int, -⟩, double⟩
    · exact .inl same
    · refine .inr ⟨?_, double⟩
      show f.type.kind = .int
      rw [← f.type.kind_innermost, int]
      rfl

/-- A record and the shape of its fields agree.  The shape lists the fields in order, each at its
own position, and there is nothing to read beyond them.  For every field, whatever its type, the
value at its position is what the field holds, and the field's name leads there, if no earlier
field bears it.  So every property that is declared admits what is read for it, and the record
conforms to its shape. -/
theorem record_agrees_with_shape (typeName : String) {fields : List Field} (r : Record fields) :
    (Field.shape typeName fields).properties = (fields.mapIdx fun i f => f.property i) ∧
    (∀ i, fields.length ≤ i → r.entity i = .null) ∧
    (∀ i : Fin fields.length, (fields.get i).type.Yields (r.get i) (r.entity i) ∧
      ((∀ j < i, (fields.get j).name ≠ (fields.get i).name) →
        ∃ p, (Field.shape typeName fields).property? (fields.get i).name = some p ∧
          p = (fields.get i).property i ∧
          (fields.get i).type.Yields (r.get i) (p.read r.entity))) ∧
    (∀ p ∈ (Field.shape typeName fields).properties, p.Admits (p.read r.entity)) ∧
    r.entity.Conforms (Field.shape typeName fields) := by
  have yields (i : Fin fields.length) : (fields.get i).type.Yields (r.get i) (r.entity i) := by
    show (fields.get i).type.Yields (r.get i) (r.value i)
    rw [r.value_eq_read]
    exact (fields.get i).type.yields_read (r.get i)
  have admits : ∀ p ∈ (Field.shape typeName fields).properties, p.Admits (p.read r.entity) := by
    intro p mem
    rw [Field.properties_shape, List.mem_mapIdx] at mem
    obtain ⟨i, inside, rfl⟩ := mem
    exact (yields ⟨i, inside⟩).admits i
  refine ⟨Field.properties_shape typeName fields, fun i => r.value_of_length_le,
    fun i => ⟨yields i, fun first => ?_⟩, admits, fun p mem => (admits p mem).suits⟩
  exact ⟨_, Field.property?_shape typeName fields i first, rfl, yields i⟩

/-! ### Ledgers -/

/-- A count of 128 bits, and a note under two optional layers. -/
def ledgerFields : List Field :=
  [⟨"count", .scalar (.int ⟨false, .w128⟩)⟩, ⟨"note", .optional (.optional (.scalar .text))⟩]

/-- A count beyond 64 bits; there is a note, but nothing in it. -/
def ledger : Record ledgerFields :=
  .cons (⟨2 ^ 64, by decide, by decide⟩ : MachineInt ⟨false, .w128⟩)
    (.cons (some none : Option (Option String)) .nil)

/-- The position of the note. -/
def noteAt : Fin ledgerFields.length := ⟨1, by decide⟩

/-- The count reads as a double outside the range, and the note, looked up by name, as nothing. -/
theorem record_agrees_with_shape_ledger :
    (∀ j < noteAt, (ledgerFields.get j).name ≠ (ledgerFields.get noteAt).name) ∧
      (∃ p, (Field.shape "Ledger" ledgerFields).property? "note" = some p ∧ p.nullable = true ∧
        p.read ledger.entity = .null) ∧
      (ledger.entity 0).IsOutsideInt64 := by
  have first : ∀ j < noteAt, (ledgerFields.get j).name ≠ (ledgerFields.get noteAt).name := by
    decide
  obtain ⟨-, -, fields, -⟩ := record_agrees_with_shape "Ledger" ledger
  refine ⟨first, ?_, ?_⟩
  · obtain ⟨p, found, rfl, yields⟩ := (fields noteAt).2 first
    exact ⟨_, found, rfl, yields.null_iff.mpr (.inside (.here _))⟩
  · rcases (fields ⟨0, by decide⟩).1.kind .float rfl with int | ⟨-, -, outside⟩
    · cases int
    · exact outside

end Rulebook
