/-
Rulebook.Proofs.Engine.CompiledRules — what the rules of a rule set are.

Whatever handlers do, every rule set that an engine has cached holds the declared
rules of its type one by one, each bound by the handler that its operator is
routed to.  This is so from the moment the set is stored, and stays so, since
operators keep their handlers and types their bindings.

  §1 Growth      — rules remain what they are when more operators are routed.
  §2 Rule sets   — what compilations give, and what is cached in every run.
  §3 Failures    — which rules an entity fails.
-/
import Rulebook.Proofs.Engine.CacheInvariants

namespace Rulebook

/-! ## 1. Growth -/

/-- Operators keep their handlers when another one is registered. -/
theorem Registry.Sound.resolve_register {r : Registry} (sound : r.Sound) (x : Handler)
    {op : Operator} {h : Handler} (routed : r.resolve op = some h) :
    (r.register x).2.resolve op = some h := by
  rw [(sound.register x).resolve_eq, handlers_register]
  rw [sound.resolve_eq] at routed
  exact (prefix_extended r.handlers x).find?_eq_some routed

theorem Scan.Describes.grow {s : Scan} {ends : Build → Except Refusal Predicate → Prop}
    {set : RuleSet} (described : s.Describes ends set) {resolve : Operator → Option Handler}
    (more : ∀ op h, s.resolve op = some h → resolve op = some h) :
    { s with resolve := resolve }.Describes ends set := by
  refine ⟨described.entity, described.key, described.named,
    described.rules.imp fun declared bound => ?_⟩
  rintro ⟨property, handler, predicate, found, routed, ended, same⟩
  exact ⟨property, handler, predicate, found, more _ _ routed, ended, same⟩

/-- The rule set stands at each place with what the declared rule there has been bound to. -/
theorem Scan.Describes.getElem? {s : Scan} {ends : Build → Except Refusal Predicate → Prop}
    {set : RuleSet} (described : s.Describes ends set) {place : Nat} {declared : String × Rule}
    (at_place : s.definition.declaredRules[place]? = some declared) :
    ∃ bound, set.rules[place]? = some bound ∧ s.Binds ends declared bound := by
  obtain ⟨inside, same⟩ := List.getElem?_eq_some_iff.mp at_place
  have inside' : place < set.rules.length := described.rules.length_eq ▸ inside
  refine ⟨set.rules[place], List.getElem?_eq_getElem inside', ?_⟩
  rw [← same]
  exact described.rules.get inside inside'

/-- Every rule of the set is a declared one, bound. -/
theorem Scan.Describes.exists_declared {s : Scan}
    {ends : Build → Except Refusal Predicate → Prop} {set : RuleSet}
    (described : s.Describes ends set) {r : BoundRule} (mem : r ∈ set.rules) :
    ∃ declared ∈ s.definition.declaredRules, s.Binds ends declared r :=
  exists_of_forall₂ described.rules mem

/-! ## 2. Rule sets -/

/-- What a compilation succeeds with is a rule set for the definition that the type is bound to. -/
theorem compilesTo_of_compile {catalog : Catalog} {registry : Registry} {bindings : Bindings}
    {responder : Responder} {type : EntityType} {caches : Caches} {set : RuleSet}
    (compiled : ((compile catalog registry bindings responder type).run.run caches).1 = .ok set) :
    CompilesTo catalog registry bindings
      (fun m => caches.keyInForce m (catalog.definition m)) Build.CanEnd type set := by
  have builds : registry.BuildsAgree Eq Build.CanEnd responder responder := by
    rintro h _ t c _ rfl
    exact ⟨rfl, rfl, responder, c, rfl⟩
  obtain ⟨-, -, ended⟩ := agree_compile Eq builds catalog bindings type
    (fun m => caches.keyInForce m (catalog.definition m)) (rfl : caches = caches)
    fun m => ⟨rfl, rfl, rfl⟩
  rw [compiled] at ended
  exact ended

namespace Engine

variable {catalog : Catalog} {g : Engine} {type : EntityType} {set : RuleSet}

/-- The cached rule sets are those of the definitions that their types are bound to. -/
structure Describes (catalog : Catalog) (g : Engine) : Prop where
  slots : g.registry.Sound
  keys : g.caches.KeysOf catalog
  sets : ∀ type set, g.caches.sets.get? type = some set →
    CompilesTo catalog g.registry g.bindings (fun m => (catalog.definition m).entityKey)
      Build.CanEnd type set

theorem invariant_describes (catalog : Catalog) : Invariant catalog (Describes catalog) where
  binds g type m described := by
    refine ⟨(g.registry_bind type m).symm ▸ described.slots,
      (g.caches_bind type m).symm ▸ described.keys, fun other set cached => ?_⟩
    rw [g.caches_bind] at cached
    obtain ⟨m', bound, described'⟩ := described.sets other set cached
    exact ⟨m', get?_bind bound type m, (g.registry_bind type m).symm ▸ described'⟩
  registers g x described := by
    refine ⟨described.slots.register x, described.keys, fun type set cached => ?_⟩
    obtain ⟨m, bound, described'⟩ := described.sets type set cached
    exact ⟨m, bound, described'.grow fun op h => described.slots.resolve_register x⟩
  looks g m described := by
    refine ⟨described.slots, described.keys.lookedUp m, fun type set cached => ?_⟩
    dsimp only at cached
    rw [Caches.sets_entityKey] at cached
    exact described.sets type set cached
  reserves g type described :=
    ⟨described.slots, described.keys, fun other set cached =>
      described.sets other set (g.caches.get?_reserve type other ▸ cached)⟩
  stores g start type set first described uncached compiled := by
    rw [first.keys.inForce] at compiled
    refine ⟨described.slots, described.keys, fun other set' cached => ?_⟩
    by_cases same : other = type
    · subst same
      rw [Caches.get?_store_self uncached] at cached
      exact Option.some.inj cached ▸ compiled
    · rw [Caches.get?_store_of_ne _ _ same] at cached
      exact described.sets other set' cached

/-- A cached rule set is that of the definition which its type is bound to. -/
theorem Reachable.describes (reachable : g.Reachable catalog) : g.Describes catalog :=
  (invariant_describes catalog).reachable
    (fun _ =>
      ⟨Registry.sound_empty, fun _ _ found => (nomatch found), fun _ _ found => nomatch found⟩)
    reachable

/-- What an engine answers a request with is a rule set for the definition that the type is bound
to. -/
theorem Reachable.compilesTo (reachable : g.Reachable catalog)
    (answered : (g.ruleSet catalog type).1 = .ok set) :
    CompilesTo catalog g.registry g.bindings (fun m => (catalog.definition m).entityKey)
      Build.CanEnd type set :=
  (reachable.run [.ruleSet type]).describes.sets type set (cached_of_ruleSet answered)

/-- At the place of a declared rule, a cached rule set has the rule as it was bound by the handler
that its operator is routed to, if that handler answers at once. -/
theorem Reachable.bound_of_declared (reachable : g.Reachable catalog)
    (cached : g.caches.sets.get? type = some set) {m : MetadataType}
    (bound : g.bindings.table.get? type = some m) {place : Nat} {name : String} {rule : Rule}
    (declared : (catalog.definition m).declaredRules[place]? = some (name, rule)) {h : Handler}
    (routed : g.registry.resolve rule.operator = some h)
    (direct : ∀ t, ∃ result, h.build t = .done result) :
    ∃ property r, (catalog.shape type).property? name = some property ∧
      set.rules[place]? = some r ∧
      h.build ⟨catalog.shape type, property, rule⟩ = .done (.ok r.predicate) := by
  obtain ⟨m', bound', described⟩ := reachable.describes.sets type set cached
  obtain rfl : m' = m := Option.some.inj (bound'.symm.trans bound)
  obtain ⟨r, at_place, property, handler, predicate, found, routed', ended, rfl⟩ :=
    described.getElem? declared
  obtain rfl : handler = h := Option.some.inj (routed'.symm.trans routed)
  exact ⟨property, _, found, at_place, ended.eq_done (direct _)⟩

end Engine

/-! ## 3. Failures -/

/-- The failure that a rule reports. -/
def BoundRule.failure (r : BoundRule) : Failure := ⟨r.message, r.severity⟩

/-- In the mode `all`, the failures are those of the rules that do not hold, in their order. -/
theorem failuresOf_all (e : Entity) (rules : List BoundRule) :
    failuresOf .all e rules = (rules.filter fun r => !r.holds e).map BoundRule.failure := by
  induction rules with
  | nil => rfl
  | cons r rules ih =>
    unfold failuresOf
    cases holds : r.holds e <;> simp [holds, ih, BoundRule.failure]

/-- A rule that holds does not show in the failures, in neither mode. -/
theorem failuresOf_eraseIdx {mode : Mode} {e : Entity} {rules : List BoundRule} {place : Nat}
    {r : BoundRule} (at_place : rules[place]? = some r) (holds : r.holds e = true) :
    failuresOf mode e (rules.eraseIdx place) = failuresOf mode e rules := by
  induction rules generalizing place with
  | nil => cases at_place
  | cons first rules ih =>
    cases place with
    | zero =>
      obtain rfl : first = r := Option.some.inj at_place
      rw [List.eraseIdx_cons_zero]
      conv_rhs => unfold failuresOf
      exact (if_pos holds).symm
    | succ place =>
      rw [List.eraseIdx_cons_succ]
      unfold failuresOf
      rw [ih at_place]

end Rulebook
