/-
Rulebook.Proofs.Engine.BindingRuns — bindings are made once, and the key of a type
depends on its own binding alone.

The key cache is shared: it is kept by metadata type, and whichever entity type is
compiled first fills it for all others that are bound to the same metadata type,
also if its own shape lacks the key and its compilation fails.  What is cached is
the key of the definition all the same, so that nobody can tell who was there first.

  §1 First bindings — what a run binds a type to, read off its requests.
  §2 Keys           — what a compilation leaves in the key cache, and which key a
                      rule set has.
  §3 Runs           — both together, for every run.
-/
import Rulebook.Proofs.Engine.CompiledRules
import Rulebook.Proofs.Engine.FailedRequests

namespace Rulebook

/-! ## 1. First bindings -/

namespace Request

/-- The metadata type that the request would bind the type to. -/
def binds? (type : EntityType) : Request → Option MetadataType
  | .bind other m => if other = type then some m else none
  | _ => none

/-- Of the requests that bind the type, the first binds it to the metadata type. -/
def FirstBinds (type : EntityType) (m : MetadataType) (requests : List Request) : Prop :=
  ∃ before later, requests = before ++ .bind type m :: later ∧ ∀ other, .bind type other ∉ before

variable {type : EntityType} {m : MetadataType} {q : Request} {requests : List Request}

theorem binds?_eq_some_iff : q.binds? type = some m ↔ q = .bind type m := by
  cases q <;> simp [binds?]

theorem binds?_eq_none_iff : q.binds? type = none ↔ ∀ m, q ≠ .bind type m := by
  simp [Option.eq_none_iff_forall_ne_some, binds?_eq_some_iff]

theorem findSome?_binds_eq_none_iff :
    requests.findSome? (·.binds? type) = none ↔ ∀ m, .bind type m ∉ requests := by
  simp only [List.findSome?_eq_none_iff, binds?_eq_none_iff]
  exact ⟨fun none m mem => none _ mem m rfl, fun none q mem m same => none m (same ▸ mem)⟩

theorem findSome?_binds_eq_some_iff :
    requests.findSome? (·.binds? type) = some m ↔ FirstBinds type m requests := by
  rw [List.findSome?_eq_some_iff]
  constructor
  · rintro ⟨before, q, later, split, binds, none⟩
    refine ⟨before, later, binds?_eq_some_iff.mp binds ▸ split, ?_⟩
    exact findSome?_binds_eq_none_iff.mp (List.findSome?_eq_none_iff.mpr none)
  · rintro ⟨before, later, split, none⟩
    refine ⟨before, .bind type m, later, split, binds?_eq_some_iff.mpr rfl, ?_⟩
    exact List.findSome?_eq_none_iff.mp (findSome?_binds_eq_none_iff.mpr none)

end Request

namespace Engine

variable {catalog : Catalog} {g : Engine} {type : EntityType} {m : MetadataType}

/-- Binding a type that is bound fails and changes nothing. -/
theorem serve_bind_of_bound {existing : MetadataType}
    (bound : g.bindings.table.get? type = some existing) (m : MetadataType) :
    g.serve catalog (.bind type m)
      = (.bound (.error (.duplicateBinding type existing m)), g) := by
  simp [serve, bind, Bindings.bind, bound]

/-- Binding a type that is not bound enters it, and nothing else. -/
theorem serve_bind_of_unbound (unbound : g.bindings.table.get? type = none) (m : MetadataType) :
    g.serve catalog (.bind type m)
      = (.bound (.ok ()), { g with bindings := ⟨g.bindings.table.insert type m⟩ }) := by
  simp [serve, bind, Bindings.bind, unbound]

/-- One request: only binding a type that is not bound yet binds it. -/
theorem bound_serve (catalog : Catalog) (g : Engine) (q : Request) (type : EntityType) :
    (g.serve catalog q).2.bindings.table.get? type
      = (g.bindings.table.get? type).or (q.binds? type) := by
  cases needs : q.needs with
  | some other =>
    have silent : q.binds? type = none := by
      cases q <;> first | rfl | cases needs
    rw [(serve_of_needs catalog g needs).1, silent, Option.or_none]
    rfl
  | none =>
    cases q with
    | bind other m =>
      cases found : g.bindings.table.get? other with
      | some existing =>
        rw [serve_bind_of_bound found]
        by_cases same : other = type
        · simp [← same, found]
        · simp [Request.binds?, same]
      | none =>
        rw [serve_bind_of_unbound found, FiniteMap.get?_insert]
        by_cases same : type = other
        · simp [Request.binds?, same, found]
        · simp [Request.binds?, same, Ne.symm same]
    | register h => exact (Option.or_none).symm
    | discover modules => exact (Option.or_none).symm
    | counters => exact (Option.or_none).symm
    | _ => cases needs

/-- All requests: a type that is not bound is bound by the first of them to bind it. -/
theorem bound_run_eq (catalog : Catalog) (g : Engine) (requests : List Request)
    (type : EntityType) :
    (g.run catalog requests).2.bindings.table.get? type
      = (g.bindings.table.get? type).or (requests.findSome? (·.binds? type)) := by
  induction requests generalizing g with
  | nil => exact (Option.or_none).symm
  | cons q qs ih =>
    show ((g.serve catalog q).2.run catalog qs).2.bindings.table.get? type = _
    rw [ih, bound_serve, Option.or_assoc, List.findSome?_cons]
    cases q.binds? type <;> rfl

section Fresh

variable {settings : Settings} {requests : List Request}

theorem bound_fresh_run (catalog : Catalog) (settings : Settings) (requests : List Request)
    (type : EntityType) :
    ((Engine.ofSettings catalog settings).run catalog requests).2.bindings.table.get? type
      = requests.findSome? (·.binds? type) := by
  obtain ⟨registry, start⟩ := ofSettings_eq catalog settings
  rw [bound_run_eq, start]
  rfl

/-- From the start, a type is bound to what the first request to bind it says. -/
theorem bound_iff_firstBinds :
    ((Engine.ofSettings catalog settings).run catalog requests).2.bindings.table.get? type = some m
      ↔ Request.FirstBinds type m requests := by
  rw [bound_fresh_run, Request.findSome?_binds_eq_some_iff]

theorem unbound_iff_never_binds :
    ((Engine.ofSettings catalog settings).run catalog requests).2.bindings.table.get? type = none
      ↔ ∀ m, .bind type m ∉ requests := by
  rw [bound_fresh_run, Request.findSome?_binds_eq_none_iff]

end Fresh

end Engine

theorem Bindings.lookup_eq_ok_iff {b : Bindings} {type : EntityType} {m : MetadataType} :
    b.lookup type = .ok m ↔ b.table.get? type = some m := by
  unfold lookup
  cases b.table.get? type <;> simp

theorem Bindings.lookup_eq_missing_iff {b : Bindings} {type : EntityType} :
    b.lookup type = .error (.missingBinding type) ↔ b.table.get? type = none := by
  unfold lookup
  cases b.table.get? type <;> simp

/-! ## 2. Keys -/

/-- A key that is cached stays cached while types are compiled. -/
theorem preserved_key (catalog : Catalog) (registry : Registry) (bindings : Bindings)
    (m : MetadataType) (key : Option String) :
    Preserved catalog registry bindings fun c => c.keys.get? m = some key where
  looks c cached other := by
    unfold Caches.entityKey
    cases vacant : c.keys.get? other with
    | some held => exact cached
    | none => exact FiniteMap.get?_insert_of_vacant cached vacant _
  reserves _ cached _ := cached
  stores _ _ _ _ _ _ cached _ _ := cached

theorem Caches.entityKey_of_cached {c : Caches} {m : MetadataType} {key : Option String}
    (cached : c.keys.get? m = some key) (d : Definition) : c.entityKey m d = (key, c) := by
  simp only [entityKey, cached]

/-- Looking a key up once more changes nothing. -/
theorem Caches.entityKey_entityKey (c : Caches) (m : MetadataType) (d : Definition) :
    (c.entityKey m d).2.entityKey m d = c.entityKey m d := by
  rw [entityKey_of_cached (c.get?_entityKey m d), ← c.entityKey_fst]

/-- A compilation looks the key up first, so that it does not matter if that has been done. -/
theorem compile_looked (catalog : Catalog) (registry : Registry) {bindings : Bindings}
    {responder : Responder} {type : EntityType} {m : MetadataType} {c : Caches}
    (bound : bindings.table.get? type = some m) :
    (compile catalog registry bindings responder type).run.run c
      = (compile catalog registry bindings responder type).run.run
          (c.entityKey m (catalog.definition m)).2 := by
  unfold compile Bindings.lookup
  rw [bound]
  show (bindDefinition registry responder type m _ _).run.run c
    = (bindDefinition registry responder type m _ _).run.run _
  unfold bindDefinition
  rw [Compiling.run_onCaches_bind, Compiling.run_onCaches_bind, Caches.entityKey_entityKey]

namespace Engine

variable {catalog : Catalog} {g : Engine} {type : EntityType} {m : MetadataType} {set : RuleSet}

/-- Once the definition has been looked at, its key is cached, whatever the attempt to compile the
type comes to. -/
theorem key_of_attempt (catalog : Catalog) (uncached : g.caches.sets.get? type = none)
    (bound : g.bindings.table.get? type = some m) :
    (g.attempt catalog type).2.keys.get? m
      = some (g.caches.keyInForce m (catalog.definition m)) := by
  have looked := (g.caches.reserve type).get?_entityKey m (catalog.definition m)
  have vacant : ((g.caches.reserve type).entityKey m (catalog.definition m)).2.sets.get? type
      = none := by
    rw [Caches.sets_entityKey, Caches.get?_reserve, uncached]
  have preserved := preserved_key catalog g.registry g.bindings m
    (g.caches.keyInForce m (catalog.definition m))
  unfold attempt
  rw [compile_looked catalog g.registry bound]
  exact (preserved.compile looked vacant).1

/-- A key that the shape does not have is what an attempt to compile the type fails with. -/
theorem attempt_of_missing_key (bound : g.bindings.table.get? type = some m) {name : String}
    (key : g.caches.keyInForce m (catalog.definition m) = some name)
    (missing : (catalog.shape type).property? name = none) :
    (g.attempt catalog type).1 = .error (.unknownProperty type m name) := by
  unfold attempt compile Bindings.lookup
  rw [bound]
  show ((bindDefinition _ _ type m (catalog.shape type) _).run.run _).1 = _
  unfold bindDefinition
  rw [Compiling.run_onCaches_bind, Caches.entityKey_fst, Caches.keyInForce_reserve, key]
  simp only [requireProperty, missing]
  rfl

/-- A request for a bound type without a rule set leaves the key of its definition in the cache. -/
theorem Reachable.key_of_ruleSet (reachable : g.Reachable catalog)
    (bound : g.bindings.table.get? type = some m) (uncached : g.caches.sets.get? type = none) :
    (g.ruleSet catalog type).2.caches.keys.get? m = some (catalog.definition m).entityKey := by
  have cached := key_of_attempt catalog uncached bound
  rw [Caches.keyInForce_eq (reachable.keysOf m)] at cached
  rw [Engine.ruleSet_of_uncached uncached]
  dsimp only
  cases (g.attempt catalog type).1 <;> exact cached

/-- The key of a rule set is the one that the definition of its type names. -/
theorem Reachable.key_of_answered (reachable : g.Reachable catalog)
    (bound : g.bindings.table.get? type = some m)
    (answered : (g.ruleSet catalog type).1 = .ok set) :
    set.key = (catalog.definition m).entityKey.bind (catalog.shape type).property? ∧
      set.key.map (·.name) = (catalog.definition m).entityKey := by
  obtain ⟨m', bound', described⟩ := reachable.compilesTo answered
  obtain rfl : m' = m := Option.some.inj (bound'.symm.trans bound)
  exact ⟨described.key, described.named⟩

/-- A key that the shape does not have lets no request for the type succeed. -/
theorem Reachable.ruleSet_of_missing_key (reachable : g.Reachable catalog)
    (bound : g.bindings.table.get? type = some m) {name : String}
    (key : (catalog.definition m).entityKey = some name)
    (missing : (catalog.shape type).property? name = none) :
    (g.ruleSet catalog type).1 = .error (.unknownProperty type m name) := by
  cases found : g.caches.sets.get? type with
  | some set =>
    obtain ⟨from_shape, named⟩ := reachable.key_of_answered bound
      (congrArg Prod.fst (ruleSet_of_cached found))
    rw [key, Option.bind_some, missing] at from_shape
    rw [from_shape, key] at named
    cases named
  | none =>
    rw [Engine.ruleSet_of_uncached found]
    refine attempt_of_missing_key bound ?_ missing
    rw [Caches.keyInForce_eq (reachable.keysOf m), key]

end Engine

/-! ## 3. Runs -/

/-- After every run under one catalog, whatever the handlers do: a type is bound to what the first
request to bind it has said, and has no binding exactly if there was no such request.  A further
request to bind it fails, naming that binding and the metadata type that was rejected, and leaves
the engine as it was.  A cached key is that of the definition, and a request for a bound type
without a rule set leaves it cached, also where it fails.  So the key of a type is the one that its
own definition names, in this run and in any other that first binds it alike; and if the shape lacks
that key, every request for the type fails. -/
theorem bindings_write_once (catalog : Catalog) (settings : Settings) (requests : List Request) :
    let g := ((Engine.ofSettings catalog settings).run catalog requests).2
    (∀ type,
      (∀ m, g.bindings.lookup type = .ok m ↔ Request.FirstBinds type m requests) ∧
        (g.bindings.lookup type = .error (.missingBinding type) ↔
          ∀ m, .bind type m ∉ requests) ∧
        ((∀ m, .bind type m ∉ requests) → ∀ m,
          (g.serve catalog (.bind type m)).1 = .bound (.ok ()) ∧
            (g.serve catalog (.bind type m)).2.bindings.lookup type = .ok m)) ∧
      (∀ m key, g.caches.keys.get? m = some key → key = (catalog.definition m).entityKey) ∧
      ∀ type m, Request.FirstBinds type m requests →
        let key := (catalog.definition m).entityKey
        (∀ attempted, g.serve catalog (.bind type attempted)
          = (.bound (.error (.duplicateBinding type m attempted)), g)) ∧
        (g.caches.sets.get? type = none →
          (g.ruleSet catalog type).2.caches.keys.get? m = some key) ∧
        (∀ name, key = some name → (catalog.shape type).property? name = none →
          (g.ruleSet catalog type).1 = .error (.unknownProperty type m name)) ∧
        ∀ set, (g.ruleSet catalog type).1 = .ok set →
          set.key = key.bind (catalog.shape type).property? ∧ set.key.map (·.name) = key ∧
            ∀ settings' requests', Request.FirstBinds type m requests' →
              let g' := ((Engine.ofSettings catalog settings').run catalog requests').2
              ∀ set', (g'.ruleSet catalog type).1 = .ok set' → set'.key = set.key := by
  intro g
  have reachable : g.Reachable catalog := ⟨settings, requests, rfl⟩
  refine ⟨fun type => ⟨fun m => Bindings.lookup_eq_ok_iff.trans Engine.bound_iff_firstBinds,
    Bindings.lookup_eq_missing_iff.trans Engine.unbound_iff_never_binds, fun new m => ?_⟩,
    reachable.keysOf, fun type m first => ?_⟩
  · have unbound : g.bindings.table.get? type = none := Engine.unbound_iff_never_binds.mpr new
    refine ⟨by rw [Engine.serve_bind_of_unbound unbound], ?_⟩
    rw [Bindings.lookup_eq_ok_iff, Engine.bound_serve, unbound]
    exact Request.binds?_eq_some_iff.mpr rfl
  · intro key
    have bound : g.bindings.table.get? type = some m := Engine.bound_iff_firstBinds.mpr first
    refine ⟨Engine.serve_bind_of_bound bound, reachable.key_of_ruleSet bound,
      fun name => reachable.ruleSet_of_missing_key bound, fun set answered => ?_⟩
    obtain ⟨from_shape, named⟩ := reachable.key_of_answered bound answered
    refine ⟨from_shape, named, ?_⟩
    intro settings' requests' first' g' set' answered'
    have reachable' : g'.Reachable catalog := ⟨settings', requests', rfl⟩
    have bound' : g'.bindings.table.get? type = some m :=
      Engine.bound_iff_firstBinds.mpr first'
    rw [from_shape, (reachable'.key_of_answered bound' answered').1]

/-! ### Receipts -/

/-- Receipts and their stubs share one definition, whose key stubs do not have. -/
def receipts : Catalog where
  shape type := if type = ⟨"Receipt"⟩ then ⟨"Receipt", [⟨"id", 0, .int, false⟩]⟩ else ⟨"Stub", []⟩
  definition _ := .ofSteps [⟨"id", [.key]⟩]
  entries := []
  standardModule := "standard"

/-- Stubs are asked for before receipts are bound. -/
def receiptRun : List Request :=
  [.bind ⟨"Stub"⟩ ⟨"SaleRules"⟩, .ruleSet ⟨"Stub"⟩, .bind ⟨"Receipt"⟩ ⟨"SaleRules"⟩]

/-- It is the stub, which does not compile, that has the key cached for receipts. -/
theorem bindings_write_once_receipts :
    let g := ((Engine.ofSettings receipts {}).run receipts receiptRun).2
    let missing := Misconfiguration.unknownProperty ⟨"Stub"⟩ ⟨"SaleRules"⟩ "id"
    g.bindings.lookup ⟨"Receipt"⟩ = .ok ⟨"SaleRules"⟩ ∧
      g.serve receipts (.bind ⟨"Receipt"⟩ ⟨"GiftRules"⟩)
        = (.bound (.error (.duplicateBinding ⟨"Receipt"⟩ ⟨"SaleRules"⟩ ⟨"GiftRules"⟩)), g) ∧
      g.caches.keys.get? ⟨"SaleRules"⟩ = some (some "id") ∧
      (g.ruleSet receipts ⟨"Stub"⟩).1 = .error missing ∧
      ∃ set, (g.ruleSet receipts ⟨"Receipt"⟩).1 = .ok set ∧
        set.key = some ⟨"id", 0, .int, false⟩ := by
  intro g missing
  have stub : Request.FirstBinds ⟨"Stub"⟩ ⟨"SaleRules"⟩ receiptRun :=
    ⟨[], receiptRun.tail, rfl, fun _ => List.not_mem_nil⟩
  have receipt : Request.FirstBinds ⟨"Receipt"⟩ ⟨"SaleRules"⟩ receiptRun :=
    ⟨receiptRun.take 2, [], rfl, fun _ => by simp [receiptRun]⟩
  obtain ⟨lookups, keys, first⟩ := bindings_write_once receipts {} receiptRun
  obtain ⟨-, -, stub_fails, -⟩ := first _ _ stub
  obtain ⟨again, -, -, compiled⟩ := first _ _ receipt
  obtain ⟨cached, found⟩ : ∃ cached, g.caches.keys.get? ⟨"SaleRules"⟩ = some cached := ⟨_, rfl⟩
  obtain ⟨set, answered⟩ : ∃ set, (g.ruleSet receipts ⟨"Receipt"⟩).1 = .ok set := ⟨_, rfl⟩
  refine ⟨((lookups _).1 _).mpr receipt, again _, ?_, stub_fails "id" rfl rfl, set, answered,
    (compiled set answered).1⟩
  rw [found, keys _ cached found]
  rfl

end Rulebook
