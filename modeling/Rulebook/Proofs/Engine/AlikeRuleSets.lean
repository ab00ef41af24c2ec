/-
Rulebook.Proofs.Engine.AlikeRuleSets — rules that are left to the built-in handlers,
compiled and evaluated.

The built-in handlers answer at once.  If the rules of a definition are left to
them, then whatever other handlers are registered, the compilation gives the rule
set of its scan, from all caches and whoever answers.  Two such compilations can be
compared rule by rule: rules that ask for the same of alike properties are bound to
rules that are alike.  Rule sets that are alike report alike.

  §1 Compilations — the rule set of a definition that is left to the built-in handlers.
  §2 Rules        — alike rules from alike targets.
  §3 Reports      — evaluation of rule sets that are alike.
-/
import Rulebook.Proofs.Engine.CompiledRules
import Rulebook.Proofs.Handler.AlikeTargets

namespace Rulebook

section Compilations

variable [Patterns]

/-! ## 1. Compilations -/

/-- Where the declared rules have handlers, these are the built-in ones. -/
def Definition.LeftToBuiltin (d : Definition) (resolve : Operator → Option Handler) : Prop :=
  ∀ name rule, (name, rule) ∈ d.declaredRules → ∀ h, resolve rule.operator = some h →
    h.IsBuiltin rule.operator

/-- With no handlers but the built-in ones, every definition is left to these. -/
theorem Registry.Sound.leftToBuiltin {registry : Registry} (sound : registry.Sound)
    (own : ∀ h ∈ registry.handlers, ∀ op ∈ h.operators, h.IsBuiltin op) (d : Definition) :
    d.LeftToBuiltin registry.resolve := by
  intro name rule _ h routed
  refine own h (Registry.mem_of_resolve routed) rule.operator ?_
  rw [sound.resolve_eq] at routed
  simpa [Handler.claims] using List.find?_some routed

theorem leftToBuiltin_orderings (d : Definition) : d.LeftToBuiltin orderings.resolve := by
  refine (Registry.sound_empty.register _).leftToBuiltin (fun h mem op claimed => ?_) d
  obtain rfl : h = .ordering "Ordering" := List.mem_singleton.mp mem
  exact .ordering "Ordering" claimed

theorem Definition.LeftToBuiltin.direct {s : Scan} (left : s.definition.LeftToBuiltin s.resolve) :
    s.Direct :=
  fun _ declared rule mem h routed =>
    (left _ rule (Definition.mem_declaredRules declared mem) h routed).direct

/-- A definition that is left to the built-in handlers compiles as its scan says. -/
theorem compile_fst_of_leftToBuiltin {catalog : Catalog} {registry : Registry} {bindings : Bindings}
    {type : EntityType} {m : MetadataType} (bound : bindings.table.get? type = some m)
    (left : (catalog.definition m).LeftToBuiltin registry.resolve) (responder : Responder)
    (caches : Caches) :
    ((compile catalog registry bindings responder type).run.run caches).1
      = (Scan.of catalog registry type m
          (caches.keyInForce m (catalog.definition m))).ruleSet := by
  have binds : ∀ m', bindings.table.get? type = some m' →
      (Scan.of catalog registry type m' (caches.keyInForce m' (catalog.definition m'))).BindsRules
        (fun _ => True) registry responder := by
    intro m' bound'
    obtain rfl : m = m' := Option.some.inj (bound.symm.trans bound')
    exact Scan.Direct.bindsRules (Definition.LeftToBuiltin.direct left) rfl
  obtain ⟨-, value⟩ := compile_run_of_binds catalog bindings type caches trivial
    (fun _ => trivial) binds
  rw [value, bound]

/-! ## 2. Rules -/

/-- The failure that a rule reports, where its handler words those rules that have no message. -/
def Rule.failure (r : Rule) (wording : String) : Failure := ⟨r.message.getD wording, r.severity⟩

/-- The bound rules are for the same property and operator, and give the same verdicts. -/
structure BoundRule.Alike (rel : Entity → Entity → Prop) (r r' : BoundRule) : Prop where
  property : r'.property = r.property
  operator : r'.operator = r.operator
  predicate : r.predicate.Alike rel r'.predicate

/-- Rules that ask for the same of alike properties are bound alike by the built-in handlers, which
have the same wording for both. -/
theorem Scan.bind_parallel {rel : Entity → Entity → Prop}
    {bad : Misconfiguration → Misconfiguration → Prop} {s s' : Scan} {r r' : Rule} {p p' : Property}
    (errors : s.ErrorsMatch bad s') (resolve : s'.resolve = s.resolve)
    (builtin : ∀ h, s.resolve r.operator = some h → h.IsBuiltin r.operator)
    (asks : r.AsksSame r') (property : p.Alike rel p')
    (found : ∀ name,
      Option.Rel (Property.Alike rel) (s.shape.property? name) (s'.shape.property? name)) :
    Parallel bad
      (fun b b' => b.Alike rel b' ∧
        ∃ wording, b.failure = r.failure wording ∧ b'.failure = r'.failure wording)
      (s.bind p r) (s'.bind p' r') := by
  unfold bind
  rw [resolve, asks.operator, property.name]
  cases routed : s.resolve r.operator with
  | none => exact .error (errors.unrouted _ _)
  | some h =>
    obtain ⟨builds, wording⟩ :=
      (builtin h routed).parallel (Target.Alike.of_rules asks property found)
    dsimp only
    rw [wording]
    generalize (h.build ⟨s.shape, p, r⟩).outcome = x,
      (h.build ⟨s'.shape, p', r'⟩).outcome = y at builds
    cases builds with
    | error same => rw [same]; exact .error (errors.refused _ _ _)
    | ok predicates => exact .ok ⟨⟨rfl, rfl, predicates⟩, _, rfl, rfl⟩

/-! ### Two compilations -/

/-- Rules that ask for the same have the same operators, so that they are left to the built-in
handlers together. -/
theorem Definition.LeftToBuiltin.of_resembles {d d' : Definition} {rel : Rule → Rule → Prop}
    {resolve : Operator → Option Handler} (left : d.LeftToBuiltin resolve)
    (resembles : d.Resembles rel d') (asks : ∀ r r', rel r r' → r.AsksSame r') :
    d'.LeftToBuiltin resolve := by
  intro name rule declared h routed
  obtain ⟨⟨name', rule'⟩, declared', -, related⟩ :=
    exists_of_forall₂ resembles.declaredRules declared
  have operator : rule.operator = rule'.operator := (asks _ _ related).operator
  rw [operator] at routed ⊢
  exact left name' rule' declared' h routed

/-- Definitions whose rules ask for the same, one by one, compile alike for shapes with alike
properties under every name: to alike rules, or up to the same obstacle. -/
theorem compile_parallel {rel : Entity → Entity → Prop} {same : Property → Property → Prop}
    {declared : Rule → Rule → Prop} {bad : Misconfiguration → Misconfiguration → Prop}
    {catalog catalog' : Catalog} {registry : Registry} {bindings bindings' : Bindings}
    {type : EntityType} {m m' : MetadataType} {caches caches' : Caches}
    (bound : bindings.table.get? type = some m) (bound' : bindings'.table.get? type = some m')
    (left : (catalog.definition m).LeftToBuiltin registry.resolve)
    (resembles : (catalog.definition m).Resembles declared (catalog'.definition m'))
    (asks : ∀ r r', declared r r' → r.AsksSame r')
    (keys : caches'.keyInForce m' (catalog'.definition m')
      = caches.keyInForce m (catalog.definition m))
    (found : ∀ name, Option.Rel same ((catalog.shape type).property? name)
      ((catalog'.shape type).property? name))
    (alike : ∀ p p', same p p' → p.Alike rel p')
    (errors : ∀ key, (Scan.of catalog registry type m key).ErrorsMatch bad
      (Scan.of catalog' registry type m' key))
    (responder responder' : Responder) :
    Parallel bad
      (RuleSet.Alike same fun b b' => b.Alike rel b' ∧ ∃ r r' wording,
        declared r r' ∧ b.failure = r.failure wording ∧ b'.failure = r'.failure wording)
      ((compile catalog registry bindings responder type).run.run caches).1
      ((compile catalog' registry bindings' responder' type).run.run caches').1 := by
  rw [compile_fst_of_leftToBuiltin bound left,
    compile_fst_of_leftToBuiltin bound' (left.of_resembles resembles asks), keys]
  refine Scan.ruleSet_parallel (errors _) rfl rfl found
    (resembles.and_left fun p mem r here => left p.name r (Definition.mem_declaredRules mem here))
    ?_
  intro r r' p p' ⟨builtin, related⟩ properties
  refine (Scan.bind_parallel (errors _) rfl builtin (asks r r' related) (alike p p' properties)
    fun name => optionRel_mono (found name) alike).mono ?_
  rintro b b' ⟨bounds, wording, failure, failure'⟩
  exact ⟨bounds, r, r', wording, related, failure, failure'⟩

end Compilations

/-! ## 3. Reports -/

/-- Rules that hold alike and fail alike give the same failures. -/
theorem failuresOf_congr {mode : Mode} {e e' : Entity} {rules rules' : List BoundRule}
    (h : List.Forall₂ (fun r r' => r'.holds e' = r.holds e ∧ r'.failure = r.failure) rules rules') :
    failuresOf mode e' rules' = failuresOf mode e rules := by
  induction h with
  | nil => rfl
  | cons head _ ih =>
    obtain ⟨holds, failure⟩ := head
    unfold failuresOf
    rw [holds, ih]
    change (if _ then _ else BoundRule.failure _ :: _) = _
    rw [failure]
    rfl

/-- Keys that read the same give the same key. -/
theorem RuleSet.keyOf_congr {set set' : RuleSet} {e e' : Entity}
    (reads : Option.Rel (fun p p' => p'.read e' = p.read e) set.key set'.key) :
    set'.keyOf e' = set.keyOf e := by
  unfold keyOf
  rw [map_eq_of_optionRel reads]

/-- Rule sets with alike keys and rules, which report the same failures, report the same of related
entities. -/
theorem RuleSet.Alike.evaluate_eq {rel : Entity → Entity → Prop} {set set' : RuleSet}
    (alike : set.Alike (Property.Alike rel) (fun r r' => r.Alike rel r' ∧ r'.failure = r.failure)
      set') {e e' : Entity} (related : rel e e') (mode : Mode) :
    set'.evaluate mode e' = set.evaluate mode e := by
  unfold RuleSet.evaluate
  rw [RuleSet.keyOf_congr (optionRel_mono alike.key fun _ _ h => h.read e e' related)]
  congr 1
  exact failuresOf_congr (alike.rules.imp fun r r' same =>
    ⟨same.1.predicate e e' related, same.2⟩)

end Rulebook
