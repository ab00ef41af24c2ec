/-
Rulebook.Evaluation — running the rules of a set on entities.

The rules of a set run in order.  In the mode `all` every rule runs and every
failure is reported; in the mode `firstFailure` the first failure is reported
and ends the evaluation, so that an entity is valid in one mode exactly when it
is in the other.  A batch is evaluated lazily, one entity at a time.
-/
import Rulebook.Json.Decode
import Rulebook.Report
import Rulebook.RuleSet

namespace Rulebook

/-! ## 1. Modes -/

/-- How many rules run for one entity. -/
inductive Mode
  /-- Every rule runs. -/
  | all
  /-- The first failure ends the evaluation. -/
  | firstFailure
deriving DecidableEq, Repr, Inhabited

namespace Mode

/-- The name of a mode in serialised data. -/
def name : Mode → String
  | .all => "all"
  | .firstFailure => "first_failure"

/-- The mode that a tree names. -/
def ofTree? : Json.Tree → Option Mode :=
  Json.Tree.enumeration? ([all, firstFailure].map fun mode => (mode.name, mode))

/-- Reads a mode from JSON text. -/
def ofJson? : String → Option Mode := Json.decode? ofTree?

end Mode

/-! ## 2. One entity -/

/-- The failures of an entity under rules in order. -/
def failuresOf (mode : Mode) (e : Entity) : List BoundRule → List Failure
  | [] => []
  | r :: rs =>
    if r.holds e then failuresOf mode e rs
    else ⟨r.message, r.severity⟩ :: match mode with
      | .all => failuresOf mode e rs
      | .firstFailure => []

/-- Evaluates a rule set on one entity. -/
def RuleSet.evaluate (s : RuleSet) (mode : Mode) (e : Entity) : Report :=
  ⟨s.keyOf e, failuresOf mode e s.rules⟩

/-! ## 3. Batches -/

/-- A batch under validation: entities are evaluated one at a time, when asked for. -/
structure Validation where
  rules : RuleSet
  mode : Mode
  /-- The entities that are still to come. -/
  pending : List Entity

namespace Validation

/-- The report on the next entity, if there is one, and what is left. -/
def next (v : Validation) : Option Report × Validation :=
  match v.pending with
  | [] => (none, v)
  | e :: rest => (some (v.rules.evaluate v.mode e), { v with pending := rest })

/-- The number of reports that are still to come. -/
def remaining (v : Validation) : Nat := v.pending.length

/-- The reports on all entities that are left. -/
def reports (v : Validation) : List Report := v.pending.map (v.rules.evaluate v.mode)

end Validation
end Rulebook
