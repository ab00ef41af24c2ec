/-
Rulebook.Proofs.Engine.FailedRequests — what a request that fails leaves for a
later one to find.

A compilation can fail at any rule, after handlers have been asked to bind other
rules, after the key of the definition has been cached, and after other types
have been compiled because handlers have asked for them.  What stays are the key
and the rule sets of those other types.  The rule sets are complete.  The key is
the one that the definition had when it was first looked at; where definitions
keep their keys it would be found again, and a later request starts over.  A
definition that has changed its key since is still taken to have the old one.

  §1 Keys       — compilations do not depend on which keys are cached, as long as
                  these are the keys of the definitions.
  §2 Failures   — what a failed request leaves.
  §3 Repetition — a later request compiles the type anew, and can only fail for
                  a reason of its own time, or for the key.
-/
import Rulebook.Handler.Fixed
import Rulebook.Handler.Link
import Rulebook.Proofs.Engine.CacheInvariants

namespace Rulebook

/-! ## 1. Keys -/

/-- The caches hold the same rule sets, and no keys but those of the definitions. -/
structure Caches.Alike (catalog : Catalog) (c c' : Caches) : Prop where
  sets : c.sets = c'.sets
  keys : c.KeysOf catalog
  keys' : c'.KeysOf catalog

/-- Requests from such caches agree: it does not matter which keys are cached. -/
theorem upheld_alike (catalog : Catalog) (registry : Registry) (bindings : Bindings) :
    Upheld catalog registry bindings (Caches.Alike catalog) where
  sets c c' alike := alike.sets
  keys c c' alike m := by
    rw [Caches.keyInForce_eq (alike.keys m), Caches.keyInForce_eq (alike.keys' m)]
  looks c c' alike m :=
    { sets := by rw [Caches.sets_entityKey, Caches.sets_entityKey, alike.sets]
      keys := alike.keys.lookedUp m
      keys' := alike.keys'.lookedUp m }
  reserves c c' alike type :=
    { sets := congrArg (·.reserve type) alike.sets
      keys := alike.keys
      keys' := alike.keys' }
  stores type _ set start start' c c' _ alike _ _ :=
    { sets := congrArg (·.fill type set) alike.sets
      keys := alike.keys
      keys' := alike.keys' }

/-- A cached key is one that the definition has in one of the catalogs. -/
def Caches.KeysFrom (catalogs : List Catalog) (c : Caches) : Prop :=
  ∀ m key, c.keys.get? m = some key →
    ∃ catalog ∈ catalogs, key = (catalog.definition m).entityKey

theorem Caches.KeysFrom.lookedUp {catalogs : List Catalog} {c : Caches}
    (keys : c.KeysFrom catalogs) {catalog : Catalog} (mem : catalog ∈ catalogs)
    (m : MetadataType) : (c.entityKey m (catalog.definition m)).2.KeysFrom catalogs := by
  intro other key found
  rcases cached_of_entityKey found with held | ⟨rfl, rfl⟩
  · exact keys other key held
  · exact ⟨catalog, mem, rfl⟩

/-- If the definitions have the same keys in all the catalogs, the cached keys are theirs. -/
theorem Caches.KeysFrom.keysOf {catalogs : List Catalog} {c : Caches} (keys : c.KeysFrom catalogs)
    {catalog : Catalog}
    (same : ∀ other ∈ catalogs, ∀ m,
      (other.definition m).entityKey = (catalog.definition m).entityKey) : c.KeysOf catalog := by
  intro m key found
  obtain ⟨other, mem, rfl⟩ := keys m key found
  exact same other mem m

namespace Engine

variable {catalog : Catalog} {g : Engine} {type : EntityType}

/-- An engine under one catalog never caches a key but that of a definition. -/
theorem invariant_keysOf (catalog : Catalog) :
    Invariant catalog fun g => g.caches.KeysOf catalog where
  binds g type m keys := (g.caches_bind type m).symm ▸ keys
  registers _ _ keys := keys
  looks _ m keys := Caches.KeysOf.lookedUp keys m
  reserves _ _ keys := keys
  stores _ _ _ _ _ keys _ _ := keys

/-- What a compilation from scratch gives: no keys are cached, of rule sets those that there are. -/
def scratch (catalog : Catalog) (type : EntityType) (g : Engine) :
    Except Misconfiguration RuleSet :=
  ({ g with caches := { g.caches with keys := ∅ } }.attempt catalog type).1

theorem attempt_eq_scratch (keys : g.caches.KeysOf catalog)
    (uncached : g.caches.sets.get? type = none) :
    (g.attempt catalog type).1 = g.scratch catalog type := by
  have upheld := upheld_alike catalog g.registry g.bindings
  have alike : g.caches.Alike catalog { g.caches with keys := ∅ } :=
    ⟨rfl, keys, fun _ _ found => nomatch found⟩
  have lacks : g.caches.Lacks [type] := fun other mem => List.mem_singleton.mp mem ▸ uncached
  exact (upheld.agree_compile (upheld.agree_nestedResponder g.bindings.size [type])
    (fun _ _ => True) (fun _ _ _ _ => trivial) type
    ⟨upheld.reserves _ _ alike type, lacks.reserve type⟩).1

/-! ## 2. Failures -/

/-- A request that fails has compiled other types for handlers at most. -/
theorem caches_of_failed {e : Misconfiguration} (failed : (g.ruleSet catalog type).1 = .error e) :
    let later := (g.ruleSet catalog type).2
    g.caches.sets.get? type = none ∧ later.caches.sets.get? type = none ∧
      g.caches.Gains g.registry g.bindings later.caches := by
  cases found : g.caches.sets.get? type with
  | some set => rw [ruleSet_of_cached found] at failed; cases failed
  | none =>
    obtain ⟨gains, vacant, -⟩ := attempt_preserves
      (preserved_gains catalog g.registry g.bindings g.caches)
      (.refl g.registry g.bindings g.caches) found
    rw [ruleSet_of_uncached found] at failed ⊢
    dsimp only at failed ⊢
    rw [failed]
    exact ⟨rfl, vacant, gains⟩

/-! ## 3. Repetition -/

theorem Reachable.keysOf (reachable : g.Reachable catalog) : g.caches.KeysOf catalog :=
  (invariant_keysOf catalog).reachable (fun _ _ _ found => nomatch found) reachable

theorem invariant_keysFrom {catalogs : List Catalog} (mem : catalog ∈ catalogs) :
    Invariant catalog fun g => g.caches.KeysFrom catalogs where
  binds g type m keys := (g.caches_bind type m).symm ▸ keys
  registers _ _ keys := keys
  looks _ m keys := Caches.KeysFrom.lookedUp keys mem m
  reserves _ _ keys := keys
  stores _ _ _ _ _ keys _ _ := keys

/-- A cached key is one that the definition had when some request was served. -/
theorem keysFrom_after (start : Catalog) (settings : Settings)
    (steps : List (Catalog × Request)) :
    ((Engine.ofSettings start settings).after steps).caches.KeysFrom (steps.map (·.1)) := by
  refine Invariant.after_forall
    (fun step mem => invariant_keysFrom (List.mem_map_of_mem mem)) ?_
  obtain ⟨registry, fresh⟩ := ofSettings_eq start settings
  rw [fresh]
  exact fun _ _ found => nomatch found

/-- What the error says is so, by the keys in force, where builds are answered by this engine, out
of the rule sets that it has and those that it compiles for them. -/
def Obstructs (catalog : Catalog) (type : EntityType) (g : Engine) (e : Misconfiguration) : Prop :=
  Obstructed catalog g.registry g.bindings
    (fun m => g.caches.keyInForce m (catalog.definition m))
    (Build.EndsFrom (fun c => g.caches.Gains g.registry g.bindings c ∧ c.Lacks [type])
      (nestedResponder catalog g.registry g.bindings g.bindings.size [type])) type e

/-- A request for a type fails for a reason of its time only. -/
theorem obstructs_of_failed {e : Misconfiguration}
    (failed : (g.ruleSet catalog type).1 = .error e) : g.Obstructs catalog type e := by
  cases found : g.caches.sets.get? type with
  | some set => rw [ruleSet_of_cached found] at failed; cases failed
  | none =>
    obtain ⟨-, -, ended⟩ := attempt_preserves
      (preserved_gains catalog g.registry g.bindings g.caches)
      (.refl g.registry g.bindings g.caches) found
    rw [ruleSet_of_uncached found] at failed
    change (g.attempt catalog type).1 = .error e at failed
    rw [failed] at ended
    exact ended

end Engine

/-- A request that fails for want of a rule set leaves the type without one, and bindings, handlers
and all cached rule sets as they were; what it has compiled are other types that handlers have asked
for, each counted once.  The error names what was in the way.  A later request for the type fails
only if something is in the way then, by the definitions, bindings and handlers of that time and by
the keys in force.  A key in force that is cached is one that the definition had at some request; if
no definition has changed its key since the start, the later request does what compiling the type
from scratch does. -/
theorem failed_request_atomic (start : Catalog) (settings : Settings)
    (before : List (Catalog × Request)) (now : Catalog) (q : Request) (type : EntityType)
    (needs : q.needs = some type)
    (failed : (((Engine.ofSettings start settings).after before).serve now q).1.failed) :
    let g := (Engine.ofSettings start settings).after before
    let h := (g.serve now q).2
    h.caches.sets.get? type = none ∧ h.bindings = g.bindings ∧ h.registry = g.registry ∧
      (∀ other set, g.caches.sets.get? other = some set → h.caches.sets.get? other = some set) ∧
      (∃ new : List EntityType, new.Nodup ∧ type ∉ new ∧
        (∀ other, other ∈ new ↔
          g.caches.sets.get? other = none ∧ ∃ set, h.caches.sets.get? other = some set) ∧
        (∀ other ∈ new, g.registry.Asks other) ∧
        h.caches.compilations = g.caches.compilations + new.length) ∧
      ((∀ other, ¬g.registry.Asks other) →
        (∀ other, h.caches.sets.get? other = g.caches.sets.get? other) ∧
          h.caches.compilations = g.caches.compilations) ∧
      (∃ e, (g.ruleSet now type).1 = .error e ∧ g.Obstructs now type e) ∧
      ∀ between next again, again.needs = some type →
        let history := before ++ (now, q) :: between
        let later := h.after between
        later.caches.sets.get? type = none →
        ((later.serve next again).1.failed ↔ ∃ e, (later.ruleSet next type).1 = .error e) ∧
          (∀ e, (later.ruleSet next type).1 = .error e → later.Obstructs next type e) ∧
          ((∀ e, ¬later.Obstructs next type e) → ∃ set, (later.ruleSet next type).1 = .ok set) ∧
          (∀ m key, later.caches.keys.get? m = some key →
            ∃ step ∈ history, key = (step.1.definition m).entityKey) ∧
          ((∀ step ∈ history, ∀ m,
              (step.1.definition m).entityKey = (next.definition m).entityKey) →
            (∀ m, later.caches.keyInForce m (next.definition m)
              = (next.definition m).entityKey) ∧
              (later.ruleSet next type).1 = later.scratch next type) := by
  intro g h
  obtain ⟨h_eq, iff⟩ := Engine.serve_of_needs now g needs
  change h = _ at h_eq
  obtain ⟨e, failed⟩ := iff.mp failed
  obtain ⟨uncached, vacant, new, adds, asked⟩ := Engine.caches_of_failed failed
  rw [← h_eq] at vacant adds
  refine ⟨vacant, by rw [h_eq]; rfl, by rw [h_eq]; rfl, adds.kept, ⟨new, adds.distinct, ?_,
    adds.mem_iff, fun other mem => (asked other mem).1, adds.counted⟩, fun silent => ?_,
    ⟨e, failed, Engine.obstructs_of_failed failed⟩, ?_⟩
  · rw [adds.mem_iff, vacant]
    rintro ⟨-, set, ⟨⟩⟩
  · have none : new = [] := List.eq_nil_iff_forall_not_mem.mpr fun other mem =>
      silent other (asked other mem).1
    subst none
    refine ⟨fun other => ?_, adds.counted⟩
    cases before : g.caches.sets.get? other with
    | some set => exact adds.kept other set before
    | none =>
      by_contra some
      obtain ⟨set, found⟩ := Option.ne_none_iff_exists'.mp some
      exact List.not_mem_nil ((adds.mem_iff other).mpr ⟨before, set, found⟩)
  · intro between next again needs' history later uncached'
    have keys : later.caches.KeysFrom (history.map (·.1)) := by
      have whole := Engine.keysFrom_after start settings history
      rwa [Engine.after_append] at whole
    refine ⟨(Engine.serve_of_needs next later needs').2, fun e => Engine.obstructs_of_failed,
      fun clear => ?_, fun m key found => ?_, fun same => ?_⟩
    · cases outcome : (later.ruleSet next type).1 with
      | ok set => exact ⟨set, rfl⟩
      | error e => exact absurd (Engine.obstructs_of_failed outcome) (clear e)
    · obtain ⟨catalog, mem, rfl⟩ := keys m key found
      obtain ⟨step, here, rfl⟩ := List.mem_map.mp mem
      exact ⟨step, here, rfl⟩
    · have kept : later.caches.KeysOf next := keys.keysOf (List.forall_mem_map.mpr same)
      refine ⟨fun m => Caches.keyInForce_eq (kept m), ?_⟩
      rw [Engine.ruleSet_of_uncached uncached']
      exact Engine.attempt_eq_scratch kept uncached'

/-! ### Orders -/

/-- Orders have the shape of invoices; their rules are linked to those of invoices, and then
checked. -/
def orders : Catalog :=
  { invoices with
    definition := fun m =>
      if m = ⟨"OrderRules"⟩ then
        .ofSteps [⟨"id", [.key, .rule { operator := ⟨"linked"⟩, constant := some (.int 0) },
          .rule { operator := ⟨"checked"⟩ }]⟩]
      else invoices.definition m }

/-- Orders are no longer checked. -/
def uncheckedOrders : Catalog :=
  { invoices with
    definition := fun m =>
      if m = ⟨"OrderRules"⟩ then
        .ofSteps [⟨"id", [.key, .rule { operator := ⟨"linked"⟩, constant := some (.int 0) }]⟩]
      else invoices.definition m }

/-- Orders and invoices are bound, and nobody checks. -/
def orderRun : List (Catalog × Request) :=
  [(orders, .register (.ordering "Ordering")), (orders, .register (.link "Link" [⟨"Invoice"⟩])),
    (orders, .bind ⟨"Invoice"⟩ ⟨"InvoiceRules"⟩), (orders, .bind ⟨"Order"⟩ ⟨"OrderRules"⟩)]

/-- The link has had invoices compiled before it turns out that orders cannot be; once they are not
to be checked any more, they can. -/
theorem failed_request_atomic_orders :
    let g := (Engine.ofSettings orders { builtinHandlers := false }).after orderRun
    let h := (g.serve orders (.report ⟨"Order"⟩ (.ofList [.int 3]))).2
    (g.serve orders (.report ⟨"Order"⟩ (.ofList [.int 3]))).1.failed ∧
      h.caches.sets.get? ⟨"Order"⟩ = none ∧
      g.caches.compilations = 0 ∧ h.caches.compilations = 1 ∧
      (∃ new : List EntityType,
        h.caches.compilations = g.caches.compilations + new.length ∧ ⟨"Invoice"⟩ ∈ new) ∧
      (h.ruleSet uncheckedOrders ⟨"Order"⟩).1 = h.scratch uncheckedOrders ⟨"Order"⟩ ∧
      ∃ set, h.scratch uncheckedOrders ⟨"Order"⟩ = .ok set := by
  intro g h
  have failed : (g.serve orders (.report ⟨"Order"⟩ (.ofList [.int 3]))).1.failed := rfl
  obtain ⟨vacant, -, -, -, ⟨new, -, -, gained, -, counted⟩, -, -, again⟩ :=
    failed_request_atomic orders { builtinHandlers := false } orderRun orders _ ⟨"Order"⟩ rfl failed
  have invoice : ⟨"Invoice"⟩ ∈ new := (gained ⟨"Invoice"⟩).mpr ⟨rfl, _, rfl⟩
  have keys : ∀ m, (orders.definition m).entityKey = (uncheckedOrders.definition m).entityKey := by
    intro m
    unfold orders uncheckedOrders
    dsimp only
    split <;> rfl
  obtain ⟨-, -, -, -, unchanged⟩ := again [] uncheckedOrders (.ruleSet ⟨"Order"⟩) rfl rfl
  have same := unchanged fun step mem m => by
    have served : step.1 = orders := by
      simp only [orderRun, List.cons_append, List.nil_append, List.mem_cons, List.not_mem_nil,
        or_false] at mem
      rcases mem with rfl | rfl | rfl | rfl | rfl <;> rfl
    rw [served]
    exact keys m
  exact ⟨failed, vacant, rfl, rfl, ⟨new, counted, invoice⟩, same.2, _, rfl⟩

/-- Invoices whose definition marks a property as key that they do not have. -/
def misnamed : Catalog :=
  { invoices with definition := fun _ => .ofSteps [⟨"number", [.key]⟩] }

/-- A key that the shape lacks stays in force after the request has failed for it: when the
definition marks another property instead, the type compiles from scratch, but the later request
fails with the same error. -/
theorem key_of_failed_request_kept :
    let g := (Engine.ofSettings misnamed { builtinHandlers := false }).after
      [(misnamed, .register (.ordering "Ordering")),
        (misnamed, .bind ⟨"Invoice"⟩ ⟨"InvoiceRules"⟩)]
    let h := (g.ruleSet misnamed ⟨"Invoice"⟩).2
    let missing := Misconfiguration.unknownProperty ⟨"Invoice"⟩ ⟨"InvoiceRules"⟩ "number"
    (g.ruleSet misnamed ⟨"Invoice"⟩).1 = .error missing ∧
      (∃ set, h.scratch invoices ⟨"Invoice"⟩ = .ok set) ∧
      (h.ruleSet invoices ⟨"Invoice"⟩).1 = .error missing :=
  ⟨by rfl, ⟨_, by rfl⟩, by rfl⟩

end Rulebook
