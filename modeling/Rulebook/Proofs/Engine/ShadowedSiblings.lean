/-
Rulebook.Proofs.Engine.ShadowedSiblings — a constant hides the sibling beside it.

A rule may name a sibling and a constant; the constant counts, and the absent
constant counts too.  What then becomes of the sibling?  Handlers look for the
operand when they bind a rule and again when they word it, and neither time do they
get to see a sibling beside a constant: the name need not be in the shape, nor be of
a kind that compares.  So rules may gain, lose or change such siblings, and nothing
changes in what their definition compiles to, be it the rule set or the error.

  §1 Rules        — rules that differ in hidden siblings ask for the same.
  §2 Compilations — results that are equal, and engines that say the same.
-/
import Rulebook.Handler.Matching
import Rulebook.Proofs.Engine.AlikeRuleSets

namespace Rulebook

/-! ## 1. Rules -/

/-- The rules differ in the sibling at most, and only if it is hidden by a constant. -/
structure Rule.SameButShadowed (r r' : Rule) : Prop where
  rest : r' = { r with sibling := r'.sibling }
  sibling : r.constant = none → r'.sibling = r.sibling

namespace Rule.SameButShadowed

variable {r r' : Rule}

theorem asksSame (same : r.SameButShadowed r') : r.AsksSame r' where
  operator := by rw [same.rest]
  allowsNull := by rw [same.rest]
  constant := by rw [same.rest]
  sibling := same.sibling

/-- What is reported on failure has nothing to do with siblings, once the handler has worded it. -/
theorem failure_eq (same : r.SameButShadowed r') (wording : String) :
    r'.failure wording = r.failure wording := by
  rw [same.rest]
  rfl

end Rule.SameButShadowed

/-! ## 2. Compilations -/

/-- Rules that give the same verdicts on every entity, and report the same failure, are equal. -/
theorem BoundRule.Alike.eq {b b' : BoundRule} (alike : b.Alike Eq b')
    (failure : b'.failure = b.failure) : b' = b := by
  obtain ⟨property, operator, predicate, message, severity⟩ := b
  obtain ⟨property', operator', predicate', message', severity'⟩ := b'
  obtain ⟨rfl, rfl, verdicts⟩ := alike
  obtain ⟨rfl, rfl⟩ := Failure.mk.inj failure
  obtain rfl : predicate' = predicate := funext fun e => verdicts e e rfl
  rfl

theorem RuleSet.Alike.eq {set set' : RuleSet} (alike : set.Alike Eq (fun b b' => b' = b) set') :
    set' = set := by
  obtain ⟨entity, key, rules⟩ := set
  obtain ⟨entity', key', rules'⟩ := set'
  obtain ⟨entities, keys, bounds⟩ := alike
  obtain rfl : rules' = rules := List.forall₂_eq_eq_eq ▸ bounds.flip
  obtain rfl : entity' = entity := entities
  cases keys with
  | none => rfl
  | some same => rw [same]

theorem compile_eq_of_shadowed [Patterns] {catalog catalog' : Catalog} {registry : Registry}
    {bindings : Bindings} {type : EntityType} {m : MetadataType}
    (bound : bindings.table.get? type = some m) (shape : catalog'.shape type = catalog.shape type)
    (differ : (catalog.definition m).Resembles Rule.SameButShadowed (catalog'.definition m))
    (left : (catalog.definition m).LeftToBuiltin registry.resolve) (caches : Caches)
    (responder responder' : Responder) :
    ((compile catalog' registry bindings responder' type).run.run caches).1
      = ((compile catalog registry bindings responder type).run.run caches).1 := by
  have keys : caches.keyInForce m (catalog'.definition m)
      = caches.keyInForce m (catalog.definition m) := by
    unfold Caches.keyInForce
    rw [differ.entityKey_eq]
  have parallel := compile_parallel bound bound left differ (fun _ _ same => same.asksSame) keys
    (Shape.property?_related shape) (fun _ _ => .of_eq) (fun _ => Scan.errorsMatch_eq rfl rfl)
    responder responder'
  refine (Parallel.eq (parallel.mono ?_)).symm
  rintro set set' ⟨entity, key, rules⟩
  refine (RuleSet.Alike.eq ⟨entity, key, rules.imp ?_⟩).symm
  rintro b b' ⟨alike, r, r', wording, same, failure, failure'⟩
  exact alike.eq (by rw [failure, failure', same.failure_eq])

/-- Two definitions that differ only in the siblings of rules with a constant compile to the same
rule set for one shape, or fail with the same error, if they are left to the built-in handlers: rule
by rule the verdicts, the messages and the severities are equal.  An engine, whatever its state and
its mode, reports the same under both. -/
theorem constant_shadows_sibling [Patterns] (catalog catalog' : Catalog) (g : Engine)
    (type : EntityType) (m : MetadataType) (bound : g.bindings.table.get? type = some m)
    (shape : catalog'.shape type = catalog.shape type)
    (differ : (catalog.definition m).Resembles Rule.SameButShadowed (catalog'.definition m))
    (left : (catalog.definition m).LeftToBuiltin g.registry.resolve) :
    (∀ (caches : Caches) (responder responder' : Responder),
      ((compile catalog' g.registry g.bindings responder' type).run.run caches).1
        = ((compile catalog g.registry g.bindings responder type).run.run caches).1) ∧
      (∀ e, (g.report catalog' type e).1 = (g.report catalog type e).1) ∧
      ∀ batch, (g.reports catalog' type batch).1 = (g.reports catalog type batch).1 := by
  have compiled (caches : Caches) := compile_eq_of_shadowed bound shape differ left caches
  have sets : (g.ruleSet catalog' type).1 = (g.ruleSet catalog type).1 :=
    Engine.ruleSet_fst_congr (compiled (g.caches.reserve type) _ _)
  refine ⟨compiled, fun e => ?_, fun batch => ?_⟩
  · rw [Engine.report_fst, Engine.report_fst, sets]
  · have kept (now : Catalog) : (g.ruleSet now type).2.settings = g.settings := rfl
    rw [Engine.reports_fst, Engine.reports_fst, sets, kept, kept]

/-! ### Letters -/

/-- Letters have a weight, and no date of return.  Both rules have a constant, one of them the
absent one, and are given siblings beside it. -/
def letters (beside beside' : Option String) : Catalog where
  shape _ := ⟨"Letter",
    [⟨"weight", 0, .int, false⟩, ⟨"address", 1, .text, false⟩, ⟨"returned", 2, .int, true⟩]⟩
  definition _ := .ofSteps
    [⟨"weight", [.rule
        { operator := .greaterThan, sibling := beside, constant := some (.int 0) }]⟩,
      ⟨"returned", [.rule
        { operator := .equal, sibling := beside', constant := some .null }]⟩]
  entries := []
  standardModule := "standard"

/-- A sibling that is a text, and one that does not exist, are hidden as well as none. -/
theorem constant_shadows_sibling_letters :
    let g := ((Engine.ofSettings (letters none none) { builtinHandlers := false }).run
      (letters none none) [.register (.ordering "Ordering"), .register (.equality "Equality"),
        .bind ⟨"Letter"⟩ ⟨"LetterRules"⟩]).2
    let letter := Entity.ofList [.int 0, .text "Lisbon", .int 5]
    ((letters none none).definition ⟨"LetterRules"⟩).Resembles Rule.SameButShadowed
        ((letters (some "address") (some "nowhere")).definition ⟨"LetterRules"⟩) ∧
      (g.report (letters (some "address") (some "nowhere")) ⟨"Letter"⟩ letter).1
        = .ok ⟨none, [⟨"weight must be greater than 0", .error⟩,
            ⟨"returned must equal null", .error⟩]⟩ := by
  intro g letter
  have differ : ((letters none none).definition ⟨"LetterRules"⟩).Resembles Rule.SameButShadowed
      ((letters (some "address") (some "nowhere")).definition ⟨"LetterRules"⟩) := by
    refine .cons ⟨rfl, rfl, .cons ⟨rfl, nofun⟩ .nil⟩ ?_
    exact .cons ⟨rfl, rfl, .cons ⟨rfl, nofun⟩ .nil⟩ .nil
  have sound : g.registry.Sound := (Registry.sound_empty.register _).register _
  have own : ∀ h ∈ g.registry.handlers, ∀ op ∈ h.operators, h.IsBuiltin op := by
    have handlers : g.registry.handlers = [.ordering "Ordering", .equality "Equality"] := rfl
    rw [handlers]
    simp only [List.forall_mem_cons]
    exact ⟨fun op => .ordering _, fun op => .equality _, fun _ none => nomatch none⟩
  obtain ⟨-, alone, -⟩ := constant_shadows_sibling (letters none none)
    (letters (some "address") (some "nowhere")) g ⟨"Letter"⟩ ⟨"LetterRules"⟩ rfl rfl differ
    (sound.leftToBuiltin own _)
  refine ⟨differ, (alone letter).trans ?_⟩
  decide +kernel

end Rulebook
