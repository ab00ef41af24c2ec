/-
Rulebook.Proofs.Engine.ReferencedProperties — a report depends on nothing but the
properties that its rules refer to.

Names are looked up when rules are bound; what is left of them is the positions at
which predicates read, and these do not show in a predicate.  So it is from the
declared rules that we know what a rule set can read of an entity: the key, the
properties that rules are declared for, and the siblings of rules that have no
constant.  Two entities that agree on these get the same reports, whatever else
they hold.

  §1 Rules   — the operands of declared rules, and what bound rules read.
  §2 Reports — entities that agree on what is referred to.
-/
import Rulebook.Handler.Matching
import Rulebook.Proofs.Engine.AlikeRuleSets

namespace Rulebook

/-! ## 1. Rules -/

/-- The property is an operand of a declared rule: the one that the rule is declared for, or else
the sibling, if the rule has no constant. -/
inductive Definition.HasOperand (d : Definition) (shape : Shape) (p : Property) : Prop
  | left (name : String) (rule : Rule) (declared : (name, rule) ∈ d.declaredRules)
      (found : shape.property? name = some p)
  | right (name : String) (rule : Rule) (other : String)
      (declared : (name, rule) ∈ d.declaredRules) (unset : rule.constant = none)
      (named : rule.sibling = some other) (found : shape.property? other = some p)

/-- The entities hold the same where the key and the operands of the declared rules are read. -/
structure RuleSet.SameReferences (set : RuleSet) (d : Definition) (shape : Shape) (e e' : Entity) :
    Prop where
  key : ∀ p, set.key = some p → e' p.index = e p.index
  operands : ∀ p, d.HasOperand shape p → e' p.index = e p.index

/-- A comparison reads its operands and nothing else. -/
theorem Comparison.predicate_congr (c : Comparison) {left : Property} (allowsNull : Bool)
    {e e' : Entity} (lefts : left.read e' = left.read e)
    (rights : c.right.read e' = c.right.read e) :
    c.predicate left allowsNull e' = c.predicate left allowsNull e := by
  unfold predicate
  rw [lefts, rights]

/-- A rule that a built-in handler has bound reads the operands of the declared one. -/
theorem Scan.Binds.holds_congr [Patterns] {s : Scan} {name : String} {rule : Rule} {r : BoundRule}
    (binds : s.Binds Build.CanEnd (name, rule) r)
    (left : s.definition.LeftToBuiltin s.resolve)
    (declared : (name, rule) ∈ s.definition.declaredRules) {e e' : Entity}
    (same : ∀ p, s.definition.HasOperand s.shape p → e' p.index = e p.index) :
    r.holds e' = r.holds e := by
  obtain ⟨property, handler, predicate, found, routed, ended, rfl⟩ := binds
  have builtin : handler.IsBuiltin rule.operator := left name rule declared handler routed
  have built := ended.eq_done (builtin.direct ⟨s.shape, property, rule⟩)
  obtain ⟨c, isFor, rfl⟩ := Handler.IsBuiltin.comparison_of_build builtin built
  refine c.predicate_congr rule.allowsNull (same property (.left name rule declared found)) ?_
  cases right : c.right with
  | constant v => rfl
  | property sibling =>
    obtain ⟨unset, other, named, known⟩ :=
      Target.sibling_of_operand (isFor.operand.trans (congrArg Except.ok right))
    exact same sibling (.right name rule other declared unset named known)

/-! ## 2. Reports -/

/-- Entities that agree on what a rule set refers to get the same report from it. -/
theorem Scan.Describes.evaluate_congr [Patterns] {s : Scan} {set : RuleSet}
    (described : s.Describes Build.CanEnd set) (left : s.definition.LeftToBuiltin s.resolve)
    {e e' : Entity} (same : set.SameReferences s.definition s.shape e e') (mode : Mode) :
    set.evaluate mode e' = set.evaluate mode e := by
  have key : Option.Rel (fun p p' => p'.read e' = p.read e) set.key set.key := by
    cases named : set.key with
    | none => exact .none
    | some p => exact .some (same.key p named)
  unfold RuleSet.evaluate
  rw [RuleSet.keyOf_congr key]
  congr 1
  refine failuresOf_congr (List.forall₂_same.mpr fun r mem => ⟨?_, rfl⟩)
  obtain ⟨⟨name, rule⟩, declared, binds⟩ := described.exists_declared mem
  exact binds.holds_congr left declared same.operands

theorem CompilesTo.evaluate_congr [Patterns] {catalog : Catalog} {registry : Registry}
    {bindings : Bindings} {key : MetadataType → Option String} {type : EntityType} {set : RuleSet}
    (compiled : CompilesTo catalog registry bindings key Build.CanEnd type set) {m : MetadataType}
    (bound : bindings.table.get? type = some m)
    (left : (catalog.definition m).LeftToBuiltin registry.resolve) {e e' : Entity}
    (same : set.SameReferences (catalog.definition m) (catalog.shape type) e e') (mode : Mode) :
    set.evaluate mode e' = set.evaluate mode e := by
  obtain ⟨m', bound', described⟩ := compiled
  obtain rfl : m = m' := Option.some.inj (bound.symm.trans bound')
  exact described.evaluate_congr left same mode

/-- A rule set that is compiled from rules left to the built-in handlers gives the same reports, in
both modes, on entities that hold the same values where its key is read, where the properties with
rules are read, and where the siblings of rules without a constant are read.  What else the
entities hold does not matter, also where the rule set has come out of the cache of an engine, and
whether the entities are validated alone or in batches. -/
theorem reports_of_references [Patterns] :
    (∀ catalog registry bindings (responder : Responder) (caches : Caches) type m set,
      bindings.table.get? type = some m →
      (catalog.definition m).LeftToBuiltin registry.resolve →
      ((compile catalog registry bindings responder type).run.run caches).1 = .ok set →
      ∀ e e', set.SameReferences (catalog.definition m) (catalog.shape type) e e' →
        ∀ mode, set.evaluate mode e' = set.evaluate mode e) ∧
      ∀ catalog (g : Engine) type m set, g.Reachable catalog →
        g.bindings.table.get? type = some m →
        (catalog.definition m).LeftToBuiltin g.registry.resolve →
        (g.ruleSet catalog type).1 = .ok set →
        let same := set.SameReferences (catalog.definition m) (catalog.shape type)
        (∀ e e', same e e' → (∀ mode, set.evaluate mode e' = set.evaluate mode e) ∧
          (g.report catalog type e').1 = (g.report catalog type e).1) ∧
        ∀ batch batch', List.Forall₂ same batch batch' →
          (g.reports catalog type batch').1 = (g.reports catalog type batch).1 := by
  refine ⟨?_, ?_⟩
  · intro catalog registry bindings responder caches type m set bound left compiled e e' same mode
    exact (compilesTo_of_compile compiled).evaluate_congr bound left same mode
  · intro catalog g type m set reachable bound left answered same
    have evaluated : ∀ e e', same e e' → ∀ mode, set.evaluate mode e' = set.evaluate mode e :=
      fun e e' here mode => (reachable.compilesTo answered).evaluate_congr bound left here mode
    refine ⟨fun e e' here => ⟨evaluated e e' here, ?_⟩, fun batch batch' related => ?_⟩
    · rw [Engine.report_fst, Engine.report_fst, answered]
      exact congrArg Except.ok (evaluated e e' here _)
    · rw [Engine.reports_fst, Engine.reports_fst, answered]
      refine congrArg Except.ok (map_eq_of_forall₂ ?_)
      exact related.imp fun e e' here => evaluated e e' here _

/-! ### Flights -/

/-- Flights arrive after their departure and have seats.  The rule about seats has a constant, so
that its sibling does not count. -/
def flights : Catalog where
  shape _ := ⟨"Flight",
    [⟨"number", 0, .int, false⟩, ⟨"departure", 1, .int, false⟩, ⟨"arrival", 2, .int, false⟩,
      ⟨"seats", 3, .int, false⟩, ⟨"delay", 4, .int, true⟩]⟩
  definition _ := .ofSteps
    [⟨"number", [.key]⟩,
      ⟨"arrival", [.rule { Rule.withSibling .greaterThan "departure" with
        message := some "late" }]⟩,
      ⟨"seats", [.rule { Rule.withSibling .greaterThan "delay" with
        constant := some (.int 0), message := some "full" }]⟩]
  entries := []
  standardModule := "standard"

/-- Two flights that differ in their delay are told the same, alone and in batches. -/
theorem reports_of_references_flights :
    let g := ((Engine.ofSettings flights { builtinHandlers := false }).run flights
      [.register (.ordering "Ordering"), .bind ⟨"Flight"⟩ ⟨"FlightRules"⟩]).2
    let onTime := Entity.ofList [.int 7, .int 20, .int 10, .int 0, .null]
    let delayed := Entity.ofList [.int 7, .int 20, .int 10, .int 0, .int (-5)]
    (g.report flights ⟨"Flight"⟩ delayed).1 = (g.report flights ⟨"Flight"⟩ onTime).1 ∧
      (g.reports flights ⟨"Flight"⟩ [delayed, onTime]).1
        = (g.reports flights ⟨"Flight"⟩ [onTime, onTime]).1 ∧
      ∃ set, ((compile flights g.registry g.bindings Responder.silent ⟨"Flight"⟩).run.run .empty).1
          = .ok set ∧
        (∀ mode, set.evaluate mode delayed = set.evaluate mode onTime) ∧
        set.evaluate .all onTime = ⟨some (.int 7), [⟨"late", .error⟩, ⟨"full", .error⟩]⟩ := by
  intro g onTime delayed
  have reachable : g.Reachable flights := ⟨_, _, rfl⟩
  have left : (flights.definition ⟨"FlightRules"⟩).LeftToBuiltin g.registry.resolve :=
    leftToBuiltin_orderings _
  have compiled : ∃ set,
      ((compile flights g.registry g.bindings Responder.silent ⟨"Flight"⟩).run.run .empty).1
          = .ok set ∧
        (g.ruleSet flights ⟨"Flight"⟩).1 = .ok set := ⟨_, rfl, rfl⟩
  obtain ⟨set, compiled, answered⟩ := compiled
  have rules : (flights.definition ⟨"FlightRules"⟩).declaredRules =
      [("arrival", { Rule.withSibling .greaterThan "departure" with message := some "late" }),
        ("seats", { Rule.withSibling .greaterThan "delay" with
          constant := some (.int 0), message := some "full" })] := rfl
  have same (delay delay' : Value) :
      set.SameReferences (flights.definition ⟨"FlightRules"⟩) (flights.shape ⟨"Flight"⟩)
        (.ofList [.int 7, .int 20, .int 10, .int 0, delay])
        (.ofList [.int 7, .int 20, .int 10, .int 0, delay']) := by
    constructor
    · intro p key
      cases compiled
      cases key
      rfl
    · intro p operand
      cases operand with
      | left name rule declared found =>
        rw [rules] at declared
        simp only [List.mem_cons, Prod.mk.injEq, List.not_mem_nil, or_false] at declared
        rcases declared with ⟨rfl, rfl⟩ | ⟨rfl, rfl⟩ <;> cases found <;> rfl
      | right name rule other declared unset named found =>
        rw [rules] at declared
        simp only [List.mem_cons, Prod.mk.injEq, List.not_mem_nil, or_false] at declared
        rcases declared with ⟨rfl, rfl⟩ | ⟨rfl, rfl⟩
        · cases named
          cases found
          rfl
        · cases unset
  obtain ⟨fresh, cached⟩ := reports_of_references
  have alone := fresh flights g.registry g.bindings .silent .empty ⟨"Flight"⟩ ⟨"FlightRules"⟩ set
    rfl left compiled onTime delayed (same _ _)
  obtain ⟨one, batches⟩ := cached flights g ⟨"Flight"⟩ ⟨"FlightRules"⟩ set reachable rfl left
    answered
  refine ⟨(one onTime delayed (same _ _)).2, ?_, set, compiled, alone, ?_⟩
  · exact batches _ _ (.cons (same _ _) (.cons (same _ _) .nil))
  · cases compiled
    decide +kernel

end Rulebook
