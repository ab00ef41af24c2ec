/-
Rulebook.Proofs.Definition.BuilderTheorems — the law of building definitions step
by step.

A definition is read off its steps: which properties it has and in which order,
what each of them has gathered from steps that lie far apart, and how many rules
there are in all.  Once two names have been mentioned, it makes no difference which
of them a step comes back to first.

  §1 Names          — first mentions come in order.
  §2 Marks and rules — who marks a name, which mark counts, and how many rules there
                       are.
  §3 Exchange       — steps under different names change places.

The names are settled by an induction from the back, since one step more leaves all
first mentions where they are.
-/
import Mathlib.Data.List.Basic
import Mathlib.Data.List.Induction
import Rulebook.Proofs.Definition.StepTheorems

namespace Rulebook

/-! ## 1. Names -/

namespace DefinitionStep

/-- Names stand in the order in which they are first mentioned. -/
theorem pairwise_names (steps : List DefinitionStep) :
    (names steps).Pairwise fun a b =>
      (steps.map (·.property)).idxOf a < (steps.map (·.property)).idxOf b := by
  induction steps using List.reverseRecOn with
  | nil => exact .nil
  | append_singleton steps s ih =>
    have known : ∀ n ∈ names steps, n ∈ steps.map (·.property) :=
      fun n mem => List.mem_eraseDups.mp mem
    have same : ∀ n ∈ names steps,
        ((steps ++ [s]).map (·.property)).idxOf n = (steps.map (·.property)).idxOf n := by
      intro n mem
      rw [List.map_append, List.idxOf_append_of_mem (known n mem)]
    have kept : (names steps).Pairwise fun a b =>
        ((steps ++ [s]).map (·.property)).idxOf a
          < ((steps ++ [s]).map (·.property)).idxOf b := by
      refine ih.imp_of_mem fun {a b} mem mem' before => ?_
      rwa [same a mem, same b mem']
    rw [names_snoc]
    split
    · exact kept
    · rename_i new
      rw [List.pairwise_append]
      refine ⟨kept, List.pairwise_singleton _ _, ?_⟩
      intro a mem b last
      obtain rfl := List.mem_singleton.mp last
      have fresh : s.property ∉ steps.map (·.property) := mt List.mem_eraseDups.mpr new
      have inside := List.idxOf_lt_length_of_mem (known a mem)
      rw [same a mem, List.map_append, List.idxOf_append_of_notMem fresh]
      omega

end DefinitionStep

namespace Definition

open DefinitionStep

/-! ## 2. Marks and rules -/

/-- A name is marked by a step that opens its property and has marking it among its actions. -/
theorem marks_iff {name : String} {steps : List DefinitionStep} :
    marks name steps = true ↔ ∃ s ∈ steps, s.property = name ∧ .key ∈ s.actions := by
  have marking (a : DefinitionAction) : a.isKey = true ↔ a = .key := by
    cases a <;> simp [DefinitionAction.isKey]
  simp [marks, actionsOn, marking]

/-- The key is the first property that is marked. -/
theorem entityKey_eq_some_iff {d : Definition} {name : String} :
    d.entityKey = some name ↔
      ∃ earlier p later, d.properties = earlier ++ p :: later ∧ p.name = name ∧
        p.isKey = true ∧ ∀ q ∈ earlier, q.isKey = false := by
  simp only [entityKey, Option.map_eq_some_iff, List.find?_eq_some_iff_append,
    Bool.not_eq_true']
  constructor
  · rintro ⟨p, ⟨marked, earlier, later, split, unmarked⟩, named⟩
    exact ⟨earlier, p, later, split, named, marked, unmarked⟩
  · rintro ⟨earlier, p, later, split, named, marked, unmarked⟩
    exact ⟨p, ⟨marked, earlier, later, split, unmarked⟩, named⟩

/-- Changing one property adds to the rules of all properties what it adds to its own. -/
theorem length_rules_modify {change : DeclaredProperty → DeclaredProperty} {added : Nat}
    (adds : ∀ p, (change p).rules.length = p.rules.length + added) (name : String)
    (ps : List DeclaredProperty) :
    ((modify name change ps).flatMap (·.rules)).length
      = (ps.flatMap (·.rules)).length + added := by
  induction ps with
  | nil => simp [modify, adds]
  | cons p ps ih =>
    unfold modify
    split
    · simp [adds]
      omega
    · simp only [List.flatMap_cons, List.length_append, ih]
      omega

theorem ruleCount_run (d : Definition) (s : DefinitionStep) :
    (d.run s).ruleCount = d.ruleCount + (s.actions.filterMap (·.rule?)).length := by
  refine length_rules_modify (fun p => ?_) s.property d.properties
  simp [foldl_act]

theorem ruleCount_foldl_run (d : Definition) (steps : List DefinitionStep) :
    (steps.foldl run d).ruleCount
      = d.ruleCount + ((steps.flatMap (·.actions)).filterMap (·.rule?)).length := by
  induction steps generalizing d with
  | nil => rfl
  | cons s steps ih => simp [ih, ruleCount_run, Nat.add_assoc]

/-- There are as many rules as the steps append. -/
theorem ruleCount_ofSteps (steps : List DefinitionStep) :
    (ofSteps steps).ruleCount = ((steps.flatMap (·.actions)).filterMap (·.rule?)).length := by
  rw [ofSteps, ruleCount_foldl_run]
  exact Nat.zero_add _

/-! ## 3. Exchange -/

/-- Steps under two known names commute. -/
theorem Reads.run_comm {before : List DefinitionStep} {d : Definition} (reads : d.Reads before)
    {s t : DefinitionStep} (apart : s.property ≠ t.property)
    (known : s.property ∈ DefinitionStep.names before)
    (known' : t.property ∈ DefinitionStep.names before) :
    (d.run s).run t = (d.run t).run s := by
  have names_eq {a b : DefinitionStep} (here : a.property ∈ DefinitionStep.names before)
      (there : b.property ∈ DefinitionStep.names before) :
      DefinitionStep.names (before ++ [a] ++ [b]) = DefinitionStep.names before := by
    rw [names_snoc, names_snoc, if_pos here, if_pos there]
  have declared_eq (name : String) :
      declared (before ++ [s] ++ [t]) name = declared (before ++ [t] ++ [s]) name := by
    simp only [declared_snoc]
    by_cases of_s : name = s.property
    · simp [of_s, apart]
    · simp [of_s]
  have st := ((reads.run s).run t).properties
  have ts := ((reads.run t).run s).properties
  rw [names_eq known known'] at st
  rw [names_eq known' known, ← List.map_congr_left fun name _ => declared_eq name] at ts
  exact congrArg Definition.mk (st.trans ts.symm)

theorem ofSteps_swap {before after : List DefinitionStep} {s t : DefinitionStep}
    (apart : s.property ≠ t.property) (known : s.property ∈ before.map (·.property))
    (known' : t.property ∈ before.map (·.property)) :
    ofSteps (before ++ t :: s :: after) = ofSteps (before ++ s :: t :: after) := by
  have commute := (reads_ofSteps before).run_comm apart (List.mem_eraseDups.mpr known)
    (List.mem_eraseDups.mpr known')
  unfold ofSteps at commute ⊢
  simp only [List.foldl_append, List.foldl_cons, commute]

end Definition

/-- Whatever the steps are, the definition has one property for each name that they mention, in the
order of first mention.  A property has the rules that were appended under its name, in the order of
the steps, and is marked if some step has marked it, first thing or later; the key is the first
marked property; and there are as many rules as were appended in all.  Hence two steps in a row
under different names may change places if both names have been mentioned before. -/
theorem definition_of_steps (steps : List DefinitionStep) :
    let d := Definition.ofSteps steps
    let mentioned := steps.map (·.property)
    let names := d.properties.map (·.name)
    (names.Nodup ∧ (∀ name, name ∈ names ↔ name ∈ mentioned) ∧
        names.Pairwise fun a b => mentioned.idxOf a < mentioned.idxOf b) ∧
      (∀ p ∈ d.properties, p.rules = DefinitionStep.rulesOn p.name steps ∧
        (p.isKey = true ↔ ∃ s ∈ steps, s.property = p.name ∧ .key ∈ s.actions)) ∧
      (∀ name, d.entityKey = some name ↔
        ∃ earlier p later, d.properties = earlier ++ p :: later ∧ p.name = name ∧
          p.isKey = true ∧ ∀ q ∈ earlier, q.isKey = false) ∧
      (d.entityKey = none ↔ ∀ p ∈ d.properties, p.isKey = false) ∧
      d.ruleCount = ((steps.flatMap (·.actions)).filterMap (·.rule?)).length ∧
      ∀ before s t after, steps = before ++ s :: t :: after → s.property ≠ t.property →
        s.property ∈ before.map (·.property) → t.property ∈ before.map (·.property) →
          Definition.ofSteps (before ++ t :: s :: after) = d := by
  intro d mentioned names
  have reads := Definition.reads_ofSteps steps
  have names_eq : names = DefinitionStep.names steps := by
    show (Definition.ofSteps steps).properties.map (·.name) = _
    rw [reads.properties, List.map_map]
    exact List.map_id' _
  refine ⟨⟨?_, ?_, ?_⟩, ?_, ?_, ?_, Definition.ruleCount_ofSteps steps, ?_⟩
  · rw [names_eq]
    exact reads.distinct
  · intro name
    rw [names_eq]
    exact List.mem_eraseDups
  · rw [names_eq]
    exact DefinitionStep.pairwise_names steps
  · intro p mem
    rw [reads.properties] at mem
    obtain ⟨name, -, rfl⟩ := List.mem_map.mp mem
    exact ⟨rfl, Definition.marks_iff⟩
  · intro name
    exact Definition.entityKey_eq_some_iff
  · simp [Definition.entityKey]
  · rintro before s t after rfl apart known known'
    exact Definition.ofSteps_swap apart known known'

/-! ### Shifts -/

/-- The start and the end of a shift are mentioned, and then come back to in either order: the end
is marked first, and the start is the key all the same. -/
theorem definition_of_steps_shifts :
    let rule (op : Operator) : DefinitionAction := .rule { operator := op }
    let before : List DefinitionStep := [⟨"start", [rule .greaterThan]⟩, ⟨"end", []⟩]
    let back_to_end : DefinitionStep := ⟨"end", [.key, rule .lessThan]⟩
    let back_to_start : DefinitionStep := ⟨"start", [rule .notEqual, .key]⟩
    let d := Definition.ofSteps (before ++ back_to_end :: back_to_start :: [])
    Definition.ofSteps (before ++ back_to_start :: back_to_end :: []) = d ∧
      d.entityKey = some "start" ∧ d.ruleCount = 3 := by
  intro rule before back_to_end back_to_start d
  obtain ⟨-, -, -, -, count, exchange⟩ :=
    definition_of_steps (before ++ back_to_end :: back_to_start :: [])
  exact ⟨exchange before back_to_end back_to_start [] rfl (by decide) (by decide) (by decide), rfl,
    count⟩

end Rulebook
