/-
Rulebook.Proofs.Engine.ShapeLayout — the layout of a shape does not matter.

A shape lists its properties in some order, and gives each a position in the
storage of entities.  Rules know properties by name: where a name stands in the
list only matters if it stands there twice, and a position only matters as far as
the value is found there.  So a shape may list its properties in another order and
keep them at other positions; if entities are stored accordingly, definitions
compile to the same rules or fail with the same error, and entities get the same
reports.

  §1 Layouts      — shapes that are laid out otherwise, and entities stored accordingly.
  §2 Compilations — one definition, compiled for both layouts.
-/
import Rulebook.Handler.Matching
import Rulebook.Proofs.Engine.AlikeRuleSets

namespace Rulebook

/-! ## 1. Layouts -/

variable {place : Nat → Nat}

/-- The property, kept at another position. -/
def Property.moved (place : Nat → Nat) (p : Property) : Property :=
  { p with index := place p.index }

/-- The second shape lists the properties of the first one in any order, moved to other positions.
Names are distinct, and so are the new positions of properties that had distinct ones. -/
structure Shape.Relaid (place : Nat → Nat) (s s' : Shape) : Prop where
  distinct : (s.properties.map (·.name)).Nodup
  apart : ∀ p ∈ s.properties, ∀ q ∈ s.properties, place p.index = place q.index →
    p.index = q.index
  permuted : s'.properties.Perm (s.properties.map (Property.moved place))

/-- The second entity holds at the new positions what the first one holds at the old ones. -/
def Entity.Relaid (place : Nat → Nat) (s : Shape) (e e' : Entity) : Prop :=
  ∀ p ∈ s.properties, e' (place p.index) = e p.index

/-- The entity, stored at the new positions. -/
def Entity.moved (place : Nat → Nat) (s : Shape) (e : Entity) : Entity := fun i =>
  match s.properties.find? fun p => place p.index == i with
  | some p => e p.index
  | none => .null

/-- The entity, stored back at the old positions. -/
def Entity.movedBack (place : Nat → Nat) (e' : Entity) : Entity := fun i => e' (place i)

theorem Entity.relaid_movedBack (s : Shape) (e' : Entity) :
    (e'.movedBack place).Relaid place s e' := fun _ _ => rfl

namespace Shape.Relaid

variable {s s' : Shape}

/-- Every entity can be stored at the new positions. -/
theorem relaid_moved (relaid : s.Relaid place s') (e : Entity) :
    e.Relaid place s (e.moved place s) := by
  intro p mem
  unfold Entity.moved
  cases found : s.properties.find? fun q => place q.index == place p.index with
  | none => exact absurd (beq_self_eq_true _) (List.find?_eq_none.mp found p mem)
  | some q =>
    have same : place q.index = place p.index := by simpa using List.find?_some found
    exact congrArg e (relaid.apart q (List.mem_of_find?_eq_some found) p mem same)

theorem distinct_moved (relaid : s.Relaid place s') :
    (s'.properties.map (·.name)).Nodup := by
  have names : (s.properties.map (Property.moved place)).map (·.name)
      = s.properties.map (·.name) := by
    rw [List.map_map]
    rfl
  rw [(relaid.permuted.map _).nodup_iff, names]
  exact relaid.distinct

/-- Under every name the new shape has the property of the old one, moved. -/
theorem property?_eq (relaid : s.Relaid place s') (name : String) :
    s'.property? name = (s.property? name).map (Property.moved place) := by
  cases found : s.property? name with
  | some p =>
    have mem : p.moved place ∈ s'.properties :=
      relaid.permuted.mem_iff.mpr (List.mem_map_of_mem (List.mem_of_find?_eq_some found))
    obtain rfl : p.name = name := Scan.name_of_property? found
    exact Shape.property?_of_mem relaid.distinct_moved mem
  | none =>
    refine List.find?_eq_none.mpr fun p' mem' => ?_
    obtain ⟨p, mem, rfl⟩ := List.mem_map.mp (relaid.permuted.mem_iff.mp mem')
    exact List.find?_eq_none.mp found p mem

theorem alike_moved {p : Property} (mem : p ∈ s.properties) :
    p.Alike (Entity.Relaid place s) (p.moved place) :=
  ⟨rfl, rfl, fun _ _ stored => stored p mem⟩

/-- Under every name both shapes have alike properties, if any. -/
theorem property?_alike (relaid : s.Relaid place s') (name : String) :
    Option.Rel (Property.Alike (Entity.Relaid place s)) (s.property? name) (s'.property? name) := by
  rw [relaid.property?_eq]
  cases found : s.property? name with
  | none => exact .none
  | some p => exact .some (alike_moved (List.mem_of_find?_eq_some found))

end Shape.Relaid

/-! ## 2. Compilations -/

/-- What shows of a rule beside its verdicts. -/
def BoundRule.label (r : BoundRule) : String × Operator × String × Severity :=
  (r.property, r.operator, r.message, r.severity)

theorem BoundRule.Alike.label_eq {rel : Entity → Entity → Prop} {r r' : BoundRule}
    (alike : r.Alike rel r') (failure : r'.failure = r.failure) : r'.label = r.label := by
  obtain ⟨message, severity⟩ := Failure.mk.inj failure
  unfold label
  rw [alike.property, alike.operator, message, severity]

/-- A definition that is left to the built-in handlers compiles for both layouts of a shape or for
neither.  If not, the errors are the same.  If so, the rules show the same property, operator,
message and severity, in the same order, the key has the same name, and in both modes an entity that
is stored by the one layout gets the same report as when it is stored by the other.  Every entity
can be stored by either. -/
theorem layout_irrelevant [Patterns] (place : Nat → Nat) (catalog catalog' : Catalog)
    (registry : Registry) (bindings : Bindings) (responder responder' : Responder)
    (caches : Caches) (type : EntityType) (m : MetadataType)
    (bound : bindings.table.get? type = some m)
    (defined : catalog'.definition m = catalog.definition m)
    (relaid : (catalog.shape type).Relaid place (catalog'.shape type))
    (left : (catalog.definition m).LeftToBuiltin registry.resolve) :
    let result := ((compile catalog registry bindings responder type).run.run caches).1
    let result' := ((compile catalog' registry bindings responder' type).run.run caches).1
    let stored := Entity.Relaid place (catalog.shape type)
    (∀ err, result = .error err ↔ result' = .error err) ∧
      (∀ set, result = .ok set → ∃ set', result' = .ok set' ∧ set'.entity = set.entity ∧
        set'.key.map (·.name) = set.key.map (·.name) ∧
        set'.rules.map BoundRule.label = set.rules.map BoundRule.label ∧
        ∀ mode e e', stored e e' → set'.evaluate mode e' = set.evaluate mode e) ∧
      (∀ e, ∃ e', stored e e') ∧ ∀ e', ∃ e, stored e e' := by
  intro result result' stored
  have resembles : (catalog.definition m).Resembles Eq (catalog'.definition m) := by
    rw [defined]
    exact .refl (fun _ => rfl) _
  have asks : ∀ r r' : Rule, r = r' → r.AsksSame r' := by
    rintro r _ rfl
    exact ⟨rfl, rfl, rfl, fun _ => rfl⟩
  have keys : caches.keyInForce m (catalog'.definition m)
      = caches.keyInForce m (catalog.definition m) := by rw [defined]
  have parallel := compile_parallel bound bound left resembles asks keys relaid.property?_alike
    (fun _ _ alike => alike) (fun _ => Scan.errorsMatch_eq rfl rfl) responder responder'
  refine ⟨parallel.error_iff, fun set succeeded => ?_,
    fun e => ⟨_, relaid.relaid_moved e⟩, fun e' => ⟨_, e'.relaid_movedBack _⟩⟩
  obtain ⟨set', succeeded', entity, keyed, ruled⟩ := parallel.exists_ok succeeded
  have alike : set.Alike (Property.Alike stored)
      (fun r r' => r.Alike stored r' ∧ r'.failure = r.failure) set' := by
    refine ⟨entity, keyed, ruled.imp ?_⟩
    rintro r r' ⟨same, declared, _, wording, rfl, failure, failure'⟩
    exact ⟨same, failure'.trans failure.symm⟩
  refine ⟨set', succeeded', entity, map_eq_of_optionRel (optionRel_mono keyed fun _ _ h => h.name),
    map_eq_of_forall₂ (alike.rules.imp fun _ _ same => same.1.label_eq same.2), ?_⟩
  exact fun mode e e' related => alike.evaluate_eq related mode

/-! ### Lessons -/

/-- Lessons end after their start, and are known by their room. -/
def lessons (shape : Shape) : Catalog where
  shape _ := shape
  definition _ := .ofSteps
    [⟨"room", [.key]⟩, ⟨"end", [.rule (.withSibling .greaterThan "start")]⟩]
  entries := []
  standardModule := "standard"

/-- The properties of lessons in order. -/
def lessonShape : Shape :=
  ⟨"Lesson", [⟨"start", 0, .int, false⟩, ⟨"end", 1, .int, false⟩, ⟨"room", 2, .text, false⟩]⟩

/-- The properties of lessons in another order, at the positions `9 - 2 * i`. -/
def relaidLessonShape : Shape :=
  ⟨"Lesson", [⟨"room", 5, .text, false⟩, ⟨"start", 9, .int, false⟩, ⟨"end", 7, .int, false⟩]⟩

/-- A lesson that ends before it starts gets the same report, by whichever layout it is stored. -/
theorem layout_irrelevant_lessons :
    let bindings : Bindings := ⟨FiniteMap.empty.insert ⟨"Lesson"⟩ ⟨"LessonRules"⟩⟩
    let result (shape : Shape) :=
      ((compile (lessons shape) orderings bindings Responder.silent ⟨"Lesson"⟩).run.run .empty).1
    let stored := Entity.Relaid (9 - 2 * ·) lessonShape
    lessonShape.Relaid (9 - 2 * ·) relaidLessonShape ∧
      ∃ set set', result lessonShape = .ok set ∧ result relaidLessonShape = .ok set' ∧
        ∃ e', stored (.ofList [.int 10, .int 9, .text "blue"]) e' ∧
          set'.evaluate .all e' =
            ⟨some (.text "blue"), [⟨"end must be greater than start", .error⟩]⟩ := by
  intro bindings result stored
  have relaid : lessonShape.Relaid (9 - 2 * ·) relaidLessonShape :=
    { distinct := by decide
      apart := by decide
      permuted := by decide }
  obtain ⟨-, compiles, moves, -⟩ := layout_irrelevant (9 - 2 * ·) (lessons lessonShape)
    (lessons relaidLessonShape) orderings bindings .silent .silent .empty ⟨"Lesson"⟩
    ⟨"LessonRules"⟩ rfl rfl relaid (leftToBuiltin_orderings _)
  have compiled : ∃ set, result lessonShape = .ok set := ⟨_, rfl⟩
  obtain ⟨set, compiled⟩ := compiled
  obtain ⟨set', compiled', -, -, -, same⟩ := compiles set compiled
  obtain ⟨e', moved⟩ := moves (.ofList [.int 10, .int 9, .text "blue"])
  refine ⟨relaid, set, set', compiled, compiled', e', moved, ?_⟩
  rw [same .all _ e' moved]
  cases compiled
  decide +kernel

end Rulebook
