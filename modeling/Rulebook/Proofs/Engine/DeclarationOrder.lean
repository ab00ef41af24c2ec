/-
Rulebook.Proofs.Engine.DeclarationOrder — what a report says goes by the order in
which properties were first mentioned.

Between the steps of a definition and the report on an entity lie the builder, which
puts the rules of a reopened property where it was first opened, the compilation,
which keeps the order, and the evaluation, which keeps it too.  A rule may therefore
be reported before one that was declared earlier, and a key that was marked last may
be the one that counts.

  §1 Blocks  — a list that is related to consecutive blocks consists of blocks.
  §2 Reports — failures property by property, and the key.
-/
import Rulebook.Proofs.Definition.StepTheorems
import Rulebook.Proofs.Engine.CompiledRules

namespace Rulebook

/-! ## 1. Blocks -/

/-- What is related to the blocks of distinct elements, one after the other, consists of blocks
that are related to these one by one. -/
theorem exists_blocks {α β γ : Type} {rel : β → γ → Prop} {f : α → List β} {xs : List α}
    {ys : List γ} (distinct : xs.Nodup) (related : List.Forall₂ rel (xs.flatMap f) ys) :
    ∃ g : α → List γ, ys = xs.flatMap g ∧ ∀ x ∈ xs, List.Forall₂ rel (f x) (g x) := by
  classical
  induction xs generalizing ys with
  | nil =>
    rw [List.flatMap_nil, List.forall₂_nil_left_iff] at related
    exact ⟨fun _ => [], related, fun _ none => absurd none List.not_mem_nil⟩
  | cons x xs ih =>
    obtain ⟨fresh, distinct⟩ := List.nodup_cons.mp distinct
    rw [List.flatMap_cons] at related
    have here := List.forall₂_take_append ys (f x) (xs.flatMap f) related.flip
    have there := List.forall₂_drop_append ys (f x) (xs.flatMap f) related.flip
    obtain ⟨g, rest, blocks⟩ := ih distinct there.flip
    -- the block of `x` is what the others leave, and `x` is none of the others
    have others : ∀ a ∈ xs, Function.update g x (ys.take (f x).length) a = g a :=
      fun a mem => Function.update_of_ne (fun same : a = x => fresh (same ▸ mem)) _ _
    refine ⟨Function.update g x (ys.take (f x).length), ?_, fun a mem => ?_⟩
    · rw [List.flatMap_cons, Function.update_self, List.flatMap_congr others, ← rest,
        List.take_append_drop]
    · rcases List.mem_cons.mp mem with rfl | mem
      · rw [Function.update_self]
        exact here.flip
      · rw [others a mem]
        exact blocks a mem

/-! ## 2. Reports -/

namespace Scan.Describes

variable {s : Scan} {ends : Build → Except Refusal Predicate → Prop} {set : RuleSet}

/-- Entities have no key if the scan names none. -/
theorem keyOf_of_none (described : s.Describes ends set) (unnamed : s.key = none) (e : Entity) :
    set.keyOf e = none := by
  have keyless : set.key = none := by rw [described.key, unnamed, Option.bind_none]
  simp [RuleSet.keyOf, keyless]

/-- The key of an entity is the value of the property that the scan names, where that is present. -/
theorem keyOf_of_some (described : s.Describes ends set) {name : String} (named : s.key = some name)
    (e : Entity) :
    ∃ p, s.shape.property? name = some p ∧
      set.keyOf e = if (p.read e).isNull then none else some (p.read e) := by
  have found := described.named
  rw [described.key, named, Option.bind_some, Option.map_eq_some_iff] at found
  obtain ⟨p, found, -⟩ := found
  have key : set.key = some p := by rw [described.key, named, Option.bind_some, found]
  refine ⟨p, found, ?_⟩
  rw [RuleSet.keyOf, key, Option.map_some, Option.filter_some]
  cases (p.read e).isNull <;> simp

end Scan.Describes

/-- The declared rules are those that the steps append, name by name. -/
theorem Definition.declaredRules_ofSteps (steps : List DefinitionStep) :
    (Definition.ofSteps steps).declaredRules =
      (DefinitionStep.names steps).flatMap fun name =>
        (DefinitionStep.rulesOn name steps).map fun rule => (name, rule) := by
  rw [declaredRules, properties_ofSteps, List.flatMap_map]
  rfl

/-- The failures of the mode `all`, block by block. -/
theorem failuresOf_all_flatMap {α : Type} (e : Entity) (xs : List α) (rules : α → List BoundRule) :
    failuresOf .all e (xs.flatMap rules) =
      xs.flatMap fun x => ((rules x).filter fun r => !r.holds e).map BoundRule.failure := by
  rw [failuresOf_all, List.filter_flatMap, List.map_flatMap]

/-- If the steps of a definition compile, every report in the mode `all` has the failures of the
properties in the order in which the steps first mention them: under each name one failure for each
rule that was appended there and does not hold, in the order of the steps.  Its key is the value of
the first name in that order that some step has marked, if there is one and the value is present. -/
theorem reports_in_declaration_order (catalog : Catalog) (g : Engine)
    (reachable : g.Reachable catalog) (type : EntityType) (m : MetadataType)
    (bound : g.bindings.table.get? type = some m) (steps : List DefinitionStep)
    (declared : catalog.definition m = .ofSteps steps) (set : RuleSet)
    (compiled : (g.ruleSet catalog type).1 = .ok set) :
    let names := DefinitionStep.names steps
    let key := DefinitionStep.keyName steps
    let scan := Scan.of catalog g.registry type m key
    ∃ rules : String → List BoundRule, set.rules = names.flatMap rules ∧
      (∀ name ∈ names, List.Forall₂ (fun rule r => scan.Binds Build.CanEnd (name, rule) r)
        (DefinitionStep.rulesOn name steps) (rules name)) ∧
      ∀ e, let report := set.evaluate .all e
        (g.settings.evaluation = .all → (g.report catalog type e).1 = .ok report) ∧
          (report.failures = names.flatMap fun name =>
            ((rules name).filter fun r => !r.holds e).map BoundRule.failure) ∧
          (key = none → report.key = none) ∧
          ∀ name, key = some name → ∃ p, (catalog.shape type).property? name = some p ∧
            report.key = if (p.read e).isNull then none else some (p.read e) := by
  intro names key scan
  have later : (g.ruleSet catalog type).2.Reachable catalog := reachable.run [.ruleSet type]
  obtain ⟨m', bound', described⟩ :=
    later.describes.sets type set (Engine.cached_of_ruleSet compiled)
  obtain rfl : m = m' := Option.some.inj (bound.symm.trans bound')
  have key_eq : (catalog.definition m).entityKey = key := by
    rw [declared, Definition.entityKey_ofSteps]
  have described : scan.Describes Build.CanEnd set := by
    dsimp only at described
    rw [key_eq] at described
    exact described
  have inOrder : List.Forall₂ (scan.Binds Build.CanEnd)
      (names.flatMap fun name => (DefinitionStep.rulesOn name steps).map fun rule => (name, rule))
      set.rules := by
    rw [← Definition.declaredRules_ofSteps, ← declared]
    exact described.rules
  obtain ⟨rules, blocks, each⟩ :=
    exists_blocks (Definition.reads_ofSteps steps).distinct inOrder
  refine ⟨rules, blocks, ?_, ?_⟩
  · intro name mem
    exact List.forall₂_map_left_iff.mp (each name mem)
  · intro e
    refine ⟨?_, ?_, ?_, ?_⟩
    · intro evaluation
      rw [Engine.report_fst, compiled, evaluation]
      rfl
    · show failuresOf .all e set.rules = _
      rw [blocks]
      exact failuresOf_all_flatMap e names rules
    · intro unmarked
      exact described.keyOf_of_none unmarked e
    · intro name marked
      exact described.keyOf_of_some marked e

/-! ### Stays -/

/-- What is declared of stays: the end is opened first, and reopened when the start has been marked
as key. -/
def staySteps : List DefinitionStep :=
  let atLeast (bound : Value) (message : String) : Rule :=
    { operator := .greaterThanOrEqual, constant := some bound, message := some message }
  [⟨"end", [.rule (atLeast (.int 10) "ends too early")]⟩,
    ⟨"start", [.key, .rule (atLeast (.int 0) "starts too early")]⟩,
    ⟨"end", [.rule { Rule.withSibling .greaterThan "start" with message := some "ends at once" },
      .key]⟩]

/-- Stays have a start and an end. -/
def stays : Catalog where
  shape _ := ⟨"Stay", [⟨"start", 0, .int, false⟩, ⟨"end", 1, .int, true⟩]⟩
  definition _ := .ofSteps staySteps
  entries := []
  standardModule := "standard"

/-- A stay that breaks every rule is told first what is wrong with its end, which is also its
key. -/
theorem reports_in_declaration_order_stays :
    let g := ((Engine.ofSettings stays { builtinHandlers := false }).run stays
      [.register (.ordering "Ordering"), .bind ⟨"Stay"⟩ ⟨"StayRules"⟩]).2
    let stay := Entity.ofList [.int (-1), .int (-2)]
    DefinitionStep.names staySteps = ["end", "start"] ∧
      DefinitionStep.keyName staySteps = some "end" ∧
      ∃ report, (g.report stays ⟨"Stay"⟩ stay).1 = .ok report ∧
        report.failures.map (·.message) = ["ends too early", "ends at once", "starts too early"] ∧
        report.key = some (.int (-2)) := by
  intro g stay
  have reachable : g.Reachable stays := ⟨_, _, rfl⟩
  have compiled : ∃ set, (g.ruleSet stays ⟨"Stay"⟩).1 = .ok set := ⟨_, rfl⟩
  obtain ⟨set, compiled⟩ := compiled
  obtain ⟨rules, -, -, reports⟩ := reports_in_declaration_order stays g reachable ⟨"Stay"⟩
    ⟨"StayRules"⟩ rfl staySteps rfl set compiled
  obtain ⟨reported, -, -, key⟩ := reports stay
  obtain ⟨p, found, value⟩ := key "end" rfl
  obtain rfl : ⟨"end", 1, .int, true⟩ = p := Option.some.inj found
  refine ⟨rfl, rfl, _, reported rfl, ?_, value⟩
  cases compiled
  rfl

end Rulebook
