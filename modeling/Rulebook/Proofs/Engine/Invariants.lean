/-
Rulebook.Proofs.Engine.Invariants — what holds of an engine whatever it is asked.

Requests are of two kinds.  Some need the rule set of a type (`Request.needs`),
and do to the engine what asking for that rule set does; the others leave the
caches alone, and bind, register or count.

  §1 Requests   — the two kinds, and runs whose definitions may change.
  §2 Rule sets  — a rule set is cached, or its type is compiled and, if that
                  succeeds, stored.
  §3 Invariants — what binding, registering, looking up a key and storing a
                  compiled rule set preserve, every run preserves.

Handlers are arbitrary throughout: they may ask for other rule sets while these
are compiled, to any depth, and make of the answers what they like.
-/
import Rulebook.Proofs.Compilation.Nesting
import Rulebook.Proofs.Engine.Requests

namespace Rulebook

/-! ## 1. Requests -/

/-- The type whose rule set is needed to grant the request. -/
def Request.needs : Request → Option EntityType
  | .bind _ _ => none
  | .register _ => none
  | .discover _ => none
  | .ruleSet type => some type
  | .validation type _ => some type
  | .reports type _ => some type
  | .report type _ => some type
  | .counters => none

namespace Engine

/-- The engine after requests; what is declared outside the engine may change from one to the
next. -/
def after (g : Engine) (steps : List (Catalog × Request)) : Engine :=
  steps.foldl (fun g step => (g.serve step.1 step.2).2) g

theorem run_snd (catalog : Catalog) (g : Engine) (requests : List Request) :
    (g.run catalog requests).2 = g.after (requests.map (catalog, ·)) := by
  induction requests generalizing g with
  | nil => rfl
  | cons q qs ih => exact ih (g.serve catalog q).2

theorem after_append (g : Engine) (before later : List (Catalog × Request)) :
    g.after (before ++ later) = (g.after before).after later := List.foldl_append

theorem run_append (catalog : Catalog) (g : Engine) (before later : List Request) :
    (g.run catalog (before ++ later)).2 = ((g.run catalog before).2.run catalog later).2 := by
  simp only [run_snd, List.map_append, after_append]

/-- An engine starts with handlers at most. -/
theorem ofSettings_eq (catalog : Catalog) (settings : Settings) :
    ∃ registry, Engine.ofSettings catalog settings
      = { settings := settings, registry := registry } := by
  unfold Engine.ofSettings
  dsimp only
  split <;> split <;> exact ⟨_, rfl⟩

/-- The engine is what requests have made of a fresh one, under one catalog. -/
def Reachable (catalog : Catalog) (g : Engine) : Prop :=
  ∃ settings requests, ((Engine.ofSettings catalog settings).run catalog requests).2 = g

theorem Reachable.run {catalog : Catalog} {g : Engine} (reachable : g.Reachable catalog)
    (requests : List Request) : (g.run catalog requests).2.Reachable catalog := by
  obtain ⟨settings, before, rfl⟩ := reachable
  exact ⟨settings, before ++ requests, run_append catalog _ before requests⟩

variable {catalog : Catalog} {g : Engine} {q : Request} {type : EntityType}

variable (catalog g) in
/-- A request that needs a rule set leaves the engine as asking for that rule set does, and fails
where there is none. -/
theorem serve_of_needs (needs : q.needs = some type) :
    (g.serve catalog q).2 = (g.ruleSet catalog type).2 ∧
      ((g.serve catalog q).1.failed ↔ ∃ e, (g.ruleSet catalog type).1 = .error e) := by
  have failed {α β : Type} (result : Except Misconfiguration α) (f : α → β) :
      (!(result.map f).isOk) = true ↔ ∃ e, result = .error e := by
    cases result <;> simp [Except.map, Except.isOk, Except.toBool]
  cases q with
  | ruleSet other =>
    obtain rfl := Option.some.inj needs
    refine ⟨rfl, ?_⟩
    have same := failed (g.ruleSet catalog other).1 id
    rwa [Except.map_id] at same
  | validation other batch =>
    obtain rfl := Option.some.inj needs
    exact ⟨rfl, failed (g.ruleSet catalog other).1 _⟩
  | reports other batch =>
    obtain rfl := Option.some.inj needs
    refine ⟨rfl, ?_⟩
    change (!(g.reports catalog other batch).1.isOk) = true ↔ _
    rw [reports_fst]
    exact failed (g.ruleSet catalog other).1 _
  | report other entity =>
    obtain rfl := Option.some.inj needs
    exact ⟨rfl, failed (g.ruleSet catalog other).1 _⟩
  | bind _ _ => cases needs
  | register _ => cases needs
  | discover _ => cases needs
  | counters => cases needs

/-! ## 2. Rule sets -/

theorem ruleSet_of_cached {set : RuleSet} (cached : g.caches.sets.get? type = some set) :
    g.ruleSet catalog type = (.ok set, g) := by
  unfold ruleSet ruleSetOf
  rw [cachedOrCompiled_of_cached cached]

/-- The attempt of an engine to compile a type. -/
def attempt (catalog : Catalog) (type : EntityType) (g : Engine) :
    Except Misconfiguration RuleSet × Caches :=
  (compile catalog g.registry g.bindings
    (nestedResponder catalog g.registry g.bindings g.bindings.size [type]) type).run.run
      (g.caches.reserve type)

theorem ruleSet_of_uncached (uncached : g.caches.sets.get? type = none) :
    g.ruleSet catalog type =
      let attempt := g.attempt catalog type
      (attempt.1, { g with caches := attempt.2.afterAttempt type attempt.1 }) := by
  unfold ruleSet ruleSetOf
  rw [cachedOrCompiled_of_uncached uncached]
  rfl

/-- Under two catalogs that compile a type alike, an engine has the same rule set for the type, or
the same error. -/
theorem ruleSet_fst_congr {catalog' : Catalog}
    (same : (g.attempt catalog' type).1 = (g.attempt catalog type).1) :
    (g.ruleSet catalog' type).1 = (g.ruleSet catalog type).1 := by
  cases cached : g.caches.sets.get? type with
  | some set => rw [ruleSet_of_cached cached, ruleSet_of_cached cached]
  | none =>
    rw [ruleSet_of_uncached cached, ruleSet_of_uncached cached]
    exact same

/-- Nothing at all is required of the caches. -/
theorem preserved_true (catalog : Catalog) (registry : Registry) (bindings : Bindings) :
    Preserved catalog registry bindings fun _ => True :=
  ⟨fun _ _ _ => trivial, fun _ _ _ => trivial, fun _ _ _ _ _ _ _ _ _ => trivial⟩

theorem attempt_preserves {inv : Caches → Prop}
    (preserved : Preserved catalog g.registry g.bindings inv) (hc : inv g.caches)
    (uncached : g.caches.sets.get? type = none) :
    let key m := g.caches.keyInForce m (catalog.definition m)
    let ends := Build.EndsFrom (fun c => inv c ∧ c.Lacks [type])
      (nestedResponder catalog g.registry g.bindings g.bindings.size [type])
    let attempt := g.attempt catalog type
    inv attempt.2 ∧ attempt.2.sets.get? type = none ∧
      Compiling.Ends (Obstructed catalog g.registry g.bindings key ends type)
        (CompilesTo catalog g.registry g.bindings key ends type) attempt.1 :=
  preserved.compile (preserved.reserves _ hc type)
    ((g.caches.get?_reserve type type).trans uncached)

/-- What is asked for is cached when it is answered. -/
theorem cached_of_ruleSet {set : RuleSet} (answered : (g.ruleSet catalog type).1 = .ok set) :
    (g.ruleSet catalog type).2.caches.sets.get? type = some set :=
  ((preserved_true catalog g.registry g.bindings).ruleSetOf (fun _ _ _ _ _ _ _ => trivial)
    trivial).2 set answered

/-- What an error says is so. -/
theorem obstructed_of_failed {e : Misconfiguration}
    (failed : (g.ruleSet catalog type).1 = .error e) :
    Obstructed catalog g.registry g.bindings
      (fun m => g.caches.keyInForce m (catalog.definition m)) Build.CanEnd type e := by
  cases found : g.caches.sets.get? type with
  | some set =>
    rw [ruleSet_of_cached found] at failed
    cases failed
  | none =>
    have upheld := (preserved_true catalog g.registry g.bindings).upheld
    have lacks : g.caches.Lacks [type] := fun other mem => List.mem_singleton.mp mem ▸ found
    obtain ⟨-, -, ended⟩ := upheld.agree_compile
      (upheld.agree_nestedResponder g.bindings.size [type]) Build.CanEnd
      (fun _ c _ _ => ⟨_, c, rfl⟩) type ⟨⟨rfl, trivial⟩, lacks.reserve type⟩
    rw [ruleSet_of_uncached found] at failed
    change (g.attempt catalog type).1 = .error e at failed
    change Compiling.Ends _ _ (g.attempt catalog type).1 at ended
    rw [failed] at ended
    exact ended

/-! ## 3. Invariants -/

/-- The property of engines is preserved by binding and registering, by looking up the key of a
definition, by reserving the slot of a type, and by storing a rule set that a type without one
compiles to. -/
structure Invariant (catalog : Catalog) (inv : Engine → Prop) : Prop where
  binds : ∀ g type m, inv g → inv (g.bind type m).2
  registers : ∀ g h, inv g → inv (g.register h)
  looks : ∀ g m, inv g → inv { g with caches := (g.caches.entityKey m (catalog.definition m)).2 }
  reserves : ∀ g type, inv g → inv { g with caches := g.caches.reserve type }
  stores : ∀ g start type set, inv { g with caches := start } → inv g →
    g.caches.sets.get? type = none →
    CompilesTo catalog g.registry g.bindings (fun m => start.keyInForce m (catalog.definition m))
      Build.CanEnd type set →
    inv { g with caches := g.caches.store type set }

namespace Invariant

variable {inv : Engine → Prop}

theorem preserved (stable : Invariant catalog inv) (g : Engine) :
    Preserved catalog g.registry g.bindings fun c => inv { g with caches := c } where
  looks c hc m := stable.looks { g with caches := c } m hc
  reserves c hc type := stable.reserves { g with caches := c } type hc
  stores type _ set start c hstart hc uncached compiled :=
    stable.stores { g with caches := c } start type set hstart hc uncached compiled

theorem registerAll (stable : Invariant catalog inv) (h : inv g) (es : List HandlerEntry) :
    inv { g with registry := (g.registry.registerAll es).2 } := by
  induction es generalizing g with
  | nil => exact h
  | cons e es ih => exact ih (stable.registers g e.handler h)

theorem discover (stable : Invariant catalog inv) (h : inv g) (modules : List String) :
    inv (g.discover catalog modules).2 := stable.registerAll h _

theorem ofSettings (stable : Invariant catalog inv) {settings : Settings}
    (h : inv { settings := settings }) : inv (.ofSettings catalog settings) := by
  unfold Engine.ofSettings
  dsimp only
  split <;> split
  · exact stable.discover h _
  · exact h
  · exact stable.discover (stable.discover h _) _
  · exact stable.discover h _

theorem ruleSet (stable : Invariant catalog inv) (h : inv g) (type : EntityType) :
    inv (g.ruleSet catalog type).2 :=
  ((stable.preserved g).ruleSetOf
    (fun set start c => stable.stores { g with caches := c } start type set) h).1

/-- One request. -/
theorem serve (stable : Invariant catalog inv) (h : inv g) (q : Request) :
    inv (g.serve catalog q).2 := by
  cases needs : q.needs with
  | some type =>
    rw [(serve_of_needs catalog g needs).1]
    exact stable.ruleSet h type
  | none =>
    cases q with
    | bind type m => exact stable.binds g type m h
    | register x => exact stable.registers g x h
    | discover modules => exact stable.discover h modules
    | counters => exact h
    | ruleSet _ => cases needs
    | validation _ _ => cases needs
    | reports _ _ => cases needs
    | report _ _ => cases needs

/-- Runs, as far as the property is preserved under what is declared outside the engine at each
request. -/
theorem after_forall {steps : List (Catalog × Request)}
    (stable : ∀ step ∈ steps, Invariant step.1 inv) (h : inv g) : inv (g.after steps) := by
  induction steps generalizing g with
  | nil => exact h
  | cons step steps ih =>
    refine ih (fun later mem => stable later (List.mem_cons_of_mem step mem)) ?_
    exact (stable step List.mem_cons_self).serve h step.2

/-- Runs, whatever is declared outside the engine at each request. -/
theorem after (stable : ∀ catalog, Invariant catalog inv) (h : inv g)
    (steps : List (Catalog × Request)) : inv (g.after steps) :=
  after_forall (fun step _ => stable step.1) h

/-- Runs under one catalog. -/
theorem run (stable : Invariant catalog inv) (h : inv g) (requests : List Request) :
    inv (g.run catalog requests).2 := by
  induction requests generalizing g with
  | nil => exact h
  | cons q qs ih => exact ih (stable.serve h q)

theorem reachable (stable : Invariant catalog inv)
    (fresh : ∀ settings, inv { settings := settings }) (h : g.Reachable catalog) : inv g := by
  obtain ⟨settings, requests, rfl⟩ := h
  exact stable.run (stable.ofSettings (fresh settings)) requests

end Invariant

/-- A rule set once cached stays cached. -/
theorem invariant_cached (catalog : Catalog) (type : EntityType) (set : RuleSet) :
    Invariant catalog fun g => g.caches.sets.get? type = some set where
  binds g other m h := by
    unfold bind
    split <;> exact h
  registers g x h := h
  looks g m h := by
    dsimp only
    rw [Caches.sets_entityKey]
    exact h
  reserves g other h := (g.caches.get?_reserve other type).trans h
  stores g start other new _ h _ _ := SlotMap.get?_fill_of_some h other new

end Engine
end Rulebook
