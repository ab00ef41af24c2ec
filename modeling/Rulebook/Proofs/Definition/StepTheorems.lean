/-
Rulebook.Proofs.Definition.StepTheorems — what the steps of a definition add up
to.

A property may be opened by one step and reopened by any later one, with steps
for other properties in between.  All the same, `properties_ofSteps` says what
the definition is without following the steps: it has one property for each name
that is mentioned, in the order of first mention; each has the rules that were
appended under its name, in the order of the steps, and is marked as key if some
step has marked it, early or late.

  §1 Steps       — the names that steps mention, and what they do under each.
  §2 One step    — opening a property of a list with distinct names.
  §3 Definitions — what the steps add up to, and the key.

What carries the induction over the steps is that the properties after some of
them are read off those steps alone (`Reads`), so that one more step either
changes the property of its name or appends one.
-/
import Rulebook.Definition

namespace Rulebook

/-! ## 1. Steps -/

namespace DefinitionAction

/-- The rule that an action appends. -/
def rule? : DefinitionAction → Option Rule
  | .rule r => some r
  | .key => none

/-- Whether an action marks the key. -/
def isKey : DefinitionAction → Bool
  | .rule _ => false
  | .key => true

end DefinitionAction

namespace DefinitionStep

/-- The names of properties, in the order in which steps first mention them. -/
def names (steps : List DefinitionStep) : List String := (steps.map (·.property)).eraseDups

/-- What steps do to the property of a name, in order. -/
def actionsOn (name : String) (steps : List DefinitionStep) : List DefinitionAction :=
  (steps.filter fun s => s.property == name).flatMap (·.actions)

/-- The rules that steps append under a name, in order. -/
def rulesOn (name : String) (steps : List DefinitionStep) : List Rule :=
  (actionsOn name steps).filterMap (·.rule?)

/-- Whether some step marks the property of a name as key. -/
def marks (name : String) (steps : List DefinitionStep) : Bool :=
  (actionsOn name steps).any (·.isKey)

/-- The first name, in the order of first mention, that some step marks as key. -/
def keyName (steps : List DefinitionStep) : Option String :=
  (names steps).find? (marks · steps)

/-- The property that steps declare under a name. -/
def declared (steps : List DefinitionStep) (name : String) : DeclaredProperty where
  name := name
  isKey := marks name steps
  rules := rulesOn name steps

theorem mem_names {name : String} {steps : List DefinitionStep} :
    name ∈ names steps ↔ ∃ s ∈ steps, s.property = name := by
  rw [names, List.mem_eraseDups, List.mem_map]

/-- A step mentions a new name at the end, or a known one. -/
theorem names_snoc (steps : List DefinitionStep) (s : DefinitionStep) :
    names (steps ++ [s]) =
      if s.property ∈ names steps then names steps else names steps ++ [s.property] := by
  unfold names
  rw [List.map_append, List.eraseDups_append, List.map_singleton]
  generalize steps.map (·.property) = mentioned
  by_cases known : s.property ∈ mentioned <;>
    simp [List.removeAll, List.mem_eraseDups, List.eraseDups_cons, known]

theorem actionsOn_snoc (name : String) (steps : List DefinitionStep) (s : DefinitionStep) :
    actionsOn name (steps ++ [s]) =
      actionsOn name steps ++ if s.property = name then s.actions else [] := by
  unfold actionsOn
  by_cases same : s.property = name <;> simp [same]

/-- Nothing is done under a name that is not mentioned. -/
theorem actionsOn_of_not_mem {name : String} {steps : List DefinitionStep}
    (unknown : name ∉ names steps) : actionsOn name steps = [] := by
  have none : steps.filter (fun s => s.property == name) = [] := by
    rw [List.filter_eq_nil_iff]
    intro s mem same
    exact unknown (mem_names.mpr ⟨s, mem, eq_of_beq same⟩)
  rw [actionsOn, none, List.flatMap_nil]

end DefinitionStep

/-! ## 2. One step -/

namespace Definition

open DefinitionStep

/-- Actions append their rules in order, and mark the property if one of them does. -/
theorem foldl_act (actions : List DefinitionAction) (p : DeclaredProperty) :
    actions.foldl act p =
      { p with
        isKey := p.isKey || actions.any (·.isKey)
        rules := p.rules ++ actions.filterMap (·.rule?) } := by
  induction actions generalizing p with
  | nil => simp
  | cons action actions ih =>
    rw [List.foldl_cons, ih]
    cases action with
    | rule r =>
      simp [act, DeclaredProperty.addRule, DefinitionAction.rule?, DefinitionAction.isKey]
    | key => simp [act, DeclaredProperty.markKey, DefinitionAction.rule?, DefinitionAction.isKey]

variable {names : List String} {f : String → DeclaredProperty}
  {change : DeclaredProperty → DeclaredProperty} {name : String}

/-- A new name opens a property at the end. -/
theorem modify_of_not_mem (named : ∀ n, (f n).name = n) (new : name ∉ names) :
    modify name change (names.map f) = names.map f ++ [change { name := name }] := by
  induction names with
  | nil => rfl
  | cons n names ih =>
    rw [List.mem_cons, not_or] at new
    rw [List.map_cons, modify, named, if_neg (Ne.symm new.1), ih new.2, List.cons_append]

/-- A known name reopens its property where it stands. -/
theorem modify_of_mem (named : ∀ n, (f n).name = n) (distinct : names.Nodup)
    (known : name ∈ names) :
    modify name change (names.map f)
      = names.map fun n => if n = name then change (f n) else f n := by
  induction names with
  | nil => exact absurd known List.not_mem_nil
  | cons n names ih =>
    obtain ⟨fresh, distinct⟩ := List.nodup_cons.mp distinct
    rw [List.map_cons, List.map_cons, modify, named]
    by_cases same : n = name
    · subst same
      -- the name stands here, and so nowhere in the rest
      have others : names.map f = names.map fun m => if m = n then change (f m) else f m :=
        List.map_congr_left fun m mem => (if_neg fun (eq : m = n) => fresh (eq ▸ mem)).symm
      rw [if_pos rfl, if_pos rfl, others]
    · have later : name ∈ names := (List.mem_cons.mp known).resolve_left (Ne.symm same)
      rw [if_neg same, if_neg same, ih distinct later]

/-! ## 3. Definitions -/

/-- The properties of the definition are those that the steps declare, each name once. -/
structure Reads (steps : List DefinitionStep) (d : Definition) : Prop where
  distinct : (DefinitionStep.names steps).Nodup
  properties : d.properties = (DefinitionStep.names steps).map (declared steps)

/-- After one more step, what is declared under its name has changed by its actions. -/
theorem declared_snoc (steps : List DefinitionStep) (s : DefinitionStep) (name : String) :
    declared (steps ++ [s]) name =
      if name = s.property then s.actions.foldl act (declared steps name)
      else declared steps name := by
  by_cases same : name = s.property
  · subst same
    rw [if_pos rfl, foldl_act]
    simp [declared, marks, rulesOn, actionsOn_snoc]
  · rw [if_neg same]
    simp [declared, marks, rulesOn, actionsOn_snoc, Ne.symm same]

/-- One step more. -/
theorem Reads.run {steps : List DefinitionStep} {d : Definition} (reads : d.Reads steps)
    (s : DefinitionStep) : (d.run s).Reads (steps ++ [s]) := by
  have named : ∀ n, (declared steps n).name = n := fun _ => rfl
  by_cases known : s.property ∈ DefinitionStep.names steps
  · have same : DefinitionStep.names (steps ++ [s]) = DefinitionStep.names steps := by
      rw [names_snoc, if_pos known]
    refine ⟨same ▸ reads.distinct, ?_⟩
    unfold Definition.run
    rw [reads.properties, modify_of_mem named reads.distinct known, same]
    exact List.map_congr_left fun n _ => (declared_snoc steps s n).symm
  · have grown : DefinitionStep.names (steps ++ [s])
        = DefinitionStep.names steps ++ [s.property] := by
      rw [names_snoc, if_neg known]
    -- nothing has been declared under the name so far
    have blank : declared steps s.property = { name := s.property } := by
      simp [declared, marks, rulesOn, actionsOn_of_not_mem known]
    have others : (DefinitionStep.names steps).map (declared (steps ++ [s]))
        = (DefinitionStep.names steps).map (declared steps) :=
      List.map_congr_left fun n mem => by
        rw [declared_snoc, if_neg fun (same : n = s.property) => known (same ▸ mem)]
    refine ⟨?_, ?_⟩
    · rw [grown, List.nodup_append]
      refine ⟨reads.distinct, List.pairwise_singleton _ _, ?_⟩
      rintro n mem _ last rfl
      exact known (List.mem_singleton.mp last ▸ mem)
    · unfold Definition.run
      rw [reads.properties, modify_of_not_mem named known, grown, List.map_append, others,
        List.map_singleton, declared_snoc, if_pos rfl, blank]

/-- All steps. -/
theorem Reads.foldl_run {before : List DefinitionStep} {d : Definition} (reads : d.Reads before)
    (steps : List DefinitionStep) : (steps.foldl Definition.run d).Reads (before ++ steps) := by
  induction steps generalizing before d with
  | nil => exact (List.append_nil before).symm ▸ reads
  | cons s steps ih =>
    rw [List.foldl_cons, List.append_cons]
    exact ih (reads.run s)

theorem reads_ofSteps (steps : List DefinitionStep) : (ofSteps steps).Reads steps := by
  have start : Definition.empty.Reads [] := ⟨.nil, rfl⟩
  exact start.foldl_run steps

/-- The properties are those mentioned, in the order of first mention; each has the rules that were
appended under its name, and is marked if some step has marked it. -/
theorem properties_ofSteps (steps : List DefinitionStep) :
    (ofSteps steps).properties = (DefinitionStep.names steps).map (declared steps) :=
  (reads_ofSteps steps).properties

/-- The key is the first name that is marked, in the order of first mention and not of marking. -/
theorem entityKey_ofSteps (steps : List DefinitionStep) :
    (ofSteps steps).entityKey = keyName steps := by
  rw [entityKey, properties_ofSteps, List.find?_map, Option.map_map, keyName]
  exact Option.map_id'

end Definition
end Rulebook
