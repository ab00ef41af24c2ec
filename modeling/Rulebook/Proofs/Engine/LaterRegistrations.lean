/-
Rulebook.Proofs.Engine.LaterRegistrations — what later registrations change about
a compilation.

An engine goes on being told of handlers and bindings after a type has been
compiled, or has failed to compile.  With pure handlers only one kind of failure
can ever go away: that of a handler which was not there.  Everything else that a
compilation has come to, rule sets and errors alike, is final.

  §1 Compilations  — with pure handlers, an engine compiles a type as its scan says.
  §2 Growth        — bindings and registered handlers stay.
  §3 Registrations — a compilation before and after further requests.
-/
import Rulebook.Proofs.Compilation.ScanOrder
import Rulebook.Proofs.Engine.CacheTransparency
import Rulebook.Proofs.Engine.CompiledRules

namespace Rulebook

namespace Engine

variable {catalog : Catalog} {g : Engine} {type : EntityType} {m : MetadataType}

/-! ## 1. Compilations -/

/-- The scan of a type that is bound to a metadata type, with the handlers registered so far. -/
def scan (catalog : Catalog) (type : EntityType) (m : MetadataType) (g : Engine) : Scan :=
  Scan.of catalog g.registry type m (catalog.definition m).entityKey

/-- An engine with pure handlers follows a history of pure handlers. -/
theorem Reachable.exists_follows (reachable : g.Reachable catalog)
    (pure : ∀ x ∈ g.registry.handlers, x.IsPure) : ∃ h, g.Follows catalog h ∧ h.IsPure := by
  obtain ⟨settings, requests, rfl⟩ := reachable
  have started : (Engine.ofSettings catalog settings).Follows catalog
      (.ofSettings catalog settings) := .ofSettings settings
  have tracks := started.toTracks.run catalog requests
  have pure' : ((History.ofSettings catalog settings).run catalog requests).2.IsPure := by
    intro x mem
    rw [← tracks.describes.handlers] at mem
    exact pure x mem
  exact ⟨_, (started.run pure').2, pure'⟩

/-- Compiling afresh gives what the scan gives, whoever answers the handlers. -/
theorem Reachable.compile_fst (reachable : g.Reachable catalog)
    (pure : ∀ x ∈ g.registry.handlers, x.IsPure) (bound : g.bindings.table.get? type = some m)
    (responder : Responder) :
    ((compile catalog g.registry g.bindings responder type).run.run g.caches).1
      = (g.scan catalog type m).ruleSet := by
  have keeps : responder.Keeps fun _ => True := by
    intro _ _ _
    trivial
  have routed : ∀ op h, g.registry.resolve op = some h → h.IsPure := by
    intro op h found
    exact pure h (Registry.mem_of_resolve found)
  have value := (compile_run keeps catalog g.bindings type g.caches routed trivial
    fun _ => trivial).2
  rw [value, bound]
  simp only [scan, Caches.keyInForce_eq (reachable.describes.keys m)]

/-- So does asking the engine, from its cache or not. -/
theorem Reachable.ruleSet_fst (reachable : g.Reachable catalog)
    (pure : ∀ x ∈ g.registry.handlers, x.IsPure) (bound : g.bindings.table.get? type = some m) :
    (g.ruleSet catalog type).1 = (g.scan catalog type m).ruleSet := by
  obtain ⟨h, follows, pure'⟩ := reachable.exists_follows pure
  rw [(follows.ruleSet pure' type).1, ← reachable.compile_fst pure bound .silent,
    Rulebook.compile_fst follows.describes pure' .silent type follows.coherent.keyInForce_eq]

/-! ## 2. Growth -/

/-- Bindings stay. -/
theorem invariant_bound (catalog : Catalog) (type : EntityType) (m : MetadataType) :
    Invariant catalog fun g => g.bindings.table.get? type = some m where
  binds _ other m' bound := get?_bind bound other m'
  registers _ _ bound := bound
  looks _ _ bound := bound
  reserves _ _ bound := bound
  stores _ _ _ _ _ bound _ _ := bound

/-- Handlers are added at the end. -/
theorem invariant_handlers (catalog : Catalog) (handlers : List Handler) :
    Invariant catalog fun g => handlers <+: g.registry.handlers where
  binds g type m known := by
    rw [registry_bind]
    exact known
  registers g x known := by
    show handlers <+: (g.registry.register x).2.handlers
    rw [Registry.handlers_register]
    exact known.trans (Registry.prefix_extended _ x)
  looks _ _ known := known
  reserves _ _ known := known
  stores _ _ _ _ _ known _ _ := known

theorem bound_run (bound : g.bindings.table.get? type = some m) (requests : List Request) :
    (g.run catalog requests).2.bindings.table.get? type = some m :=
  (invariant_bound catalog type m).run bound requests

theorem handlers_run (catalog : Catalog) (g : Engine) (requests : List Request) :
    g.registry.handlers <+: (g.run catalog requests).2.registry.handlers :=
  (invariant_handlers catalog g.registry.handlers).run List.prefix_rfl requests

/-- Operators keep their handlers. -/
theorem Reachable.resolve_run (reachable : g.Reachable catalog) (requests : List Request)
    (op : Operator) (h : Handler) (routed : g.registry.resolve op = some h) :
    (g.run catalog requests).2.registry.resolve op = some h := by
  rw [(reachable.run requests).describes.slots.resolve_eq]
  rw [reachable.describes.slots.resolve_eq] at routed
  exact (handlers_run catalog g requests).find?_eq_some routed

/-- A handler that an operator has got only later has been registered only later. -/
theorem Reachable.not_mem_of_unrouted (reachable : g.Reachable catalog) (requests : List Request)
    {op : Operator} (unrouted : g.registry.resolve op = none) {h : Handler}
    (routed : (g.run catalog requests).2.registry.resolve op = some h) :
    h ∉ g.registry.handlers := by
  rw [reachable.describes.slots.resolve_eq, List.find?_eq_none] at unrouted
  rw [(reachable.run requests).describes.slots.resolve_eq] at routed
  intro known
  exact unrouted h known (List.find?_some routed)

end Engine

/-! ## 3. Registrations -/

/-- With pure handlers, compiling a bound type comes to the same before and after further requests,
unless it failed for want of a handler.  Such a failure stays as it is until a handler that claims
the operator has been registered.  From then on the compilation may only fail later in the order of
its checkpoints: right after that, if the new handler refuses the very rule, or at some place
beyond. -/
theorem later_registrations (catalog : Catalog) (g : Engine) (reachable : g.Reachable catalog)
    (type : EntityType) (m : MetadataType) (bound : g.bindings.table.get? type = some m)
    (requests : List Request)
    (pure : ∀ x ∈ (g.run catalog requests).2.registry.handlers, x.IsPure) :
    let later := (g.run catalog requests).2
    let before := (g.ruleSet catalog type).1
    let after := (later.ruleSet catalog type).1
    (∀ responder,
      ((compile catalog g.registry g.bindings responder type).run.run g.caches).1 = before ∧
        ((compile catalog later.registry later.bindings responder type).run.run later.caches).1
          = after) ∧
      (∀ set, before = .ok set → after = .ok set) ∧
      (∀ e, before = .error e → e.isPermanent → after = .error e) ∧
      ∀ e, before = .error e → e.isPermanent = false →
        ∃ place name rule, e = .handlerNotFound rule.operator type name ∧
          (g.scan catalog type m).EndsAt place (.handler name rule) e ∧
          ((∀ h ∈ later.registry.handlers, ¬ h.claims rule.operator) → after = .error e) ∧
          ((∃ h ∈ later.registry.handlers, h.claims rule.operator) →
            ∃ h, later.registry.resolve rule.operator = some h ∧ h ∉ g.registry.handlers ∧
              ∀ e', after = .error e' → ∃ place' checkpoint,
                (later.scan catalog type m).EndsAt place' checkpoint e' ∧ place < place' ∧
                  (place' = place + 1 → checkpoint = .binding name rule ∧
                    ∃ property reason, (catalog.shape type).property? name = some property ∧
                      (h.build ⟨catalog.shape type, property, rule⟩).outcome = .error reason ∧
                      e' = .binding type name rule.operator reason)) := by
  intro later before after
  have reachable' : later.Reachable catalog := reachable.run requests
  have bound' : later.bindings.table.get? type = some m := Engine.bound_run bound requests
  have pure₀ : ∀ x ∈ g.registry.handlers, x.IsPure := by
    intro x mem
    exact pure x ((Engine.handlers_run catalog g requests).subset mem)
  have compiled : before = (g.scan catalog type m).ruleSet := reachable.ruleSet_fst pure₀ bound
  -- the later scan is the earlier one with more operators routed
  have compiled' : after = { g.scan catalog type m with
      resolve := later.registry.resolve }.ruleSet := reachable'.ruleSet_fst pure bound'
  have more := reachable.resolve_run requests
  rw [compiled, compiled']
  refine ⟨?_, ?_, ?_, ?_⟩
  · intro responder
    exact ⟨reachable.compile_fst pure₀ bound responder,
      reachable'.compile_fst pure bound' responder⟩
  · intro set succeeded
    exact Scan.ruleSet_mono more succeeded
  · intro e failed permanent
    obtain ⟨place, checkpoint, ended⟩ := Scan.exists_endsAt failed
    have routed := Scan.routed_of_permanent ended.blocked permanent
    exact (ended.grow_of_routed more routed).ruleSet_eq
  · intro e failed passing
    obtain ⟨place, checkpoint, ended⟩ := Scan.exists_endsAt failed
    obtain permanent | ⟨name, rule, rfl, unrouted, same⟩ := ended.permanent_or_handler
    · exact nomatch passing.symm.trans permanent
    refine ⟨place, name, rule, same, ended, ?_, ?_⟩
    · intro unclaimed
      have unrouted' : later.registry.resolve rule.operator = none := by
        rw [reachable'.describes.slots.resolve_eq, List.find?_eq_none]
        exact unclaimed
      exact (ended.grow_of_unrouted more unrouted').ruleSet_eq
    · rintro ⟨h₀, registered, claims⟩
      have routed : ∃ h, later.registry.resolve rule.operator = some h := by
        rw [reachable'.describes.slots.resolve_eq, ← Option.isSome_iff_exists, List.find?_isSome]
        exact ⟨h₀, registered, claims⟩
      obtain ⟨h, routed⟩ := routed
      refine ⟨h, routed, reachable.not_mem_of_unrouted requests unrouted routed, ?_⟩
      intro e' failed'
      obtain ⟨place', checkpoint', ended'⟩ := Scan.exists_endsAt failed'
      exact ⟨place', checkpoint', ended', ended.grow_of_handler more routed ended'⟩

/-! ### Parcels -/

/-- Parcels are checked first, and then compared with a property that they do not have. -/
def parcels : Catalog where
  shape _ := ⟨"Parcel", [⟨"weight", 0, .int, false⟩]⟩
  definition _ := .ofSteps [⟨"weight",
    [.rule { operator := ⟨"checked"⟩ }, .rule (.withSibling .lessThan "limit")]⟩]
  entries := []
  standardModule := "standard"

/-- As long as nobody checks, that is what is missing; once somebody does, the compilation gets
further and fails there. -/
theorem later_registrations_parcels :
    let g := ((Engine.ofSettings parcels { builtinHandlers := false }).run parcels
      [.bind ⟨"Parcel"⟩ ⟨"ParcelRules"⟩]).2
    let unchecked := Misconfiguration.handlerNotFound ⟨"checked"⟩ ⟨"Parcel"⟩ "weight"
    let compared := (g.run parcels [.register (.ordering "Ordering")]).2
    let checked := (g.run parcels
      [.register (.ordering "Ordering"), .register (.fixed "Checked" [⟨"checked"⟩] true)]).2
    (g.ruleSet parcels ⟨"Parcel"⟩).1 = .error unchecked ∧
      (compared.ruleSet parcels ⟨"Parcel"⟩).1 = .error unchecked ∧
      ∃ place rule place' checkpoint e',
        (g.scan parcels ⟨"Parcel"⟩ ⟨"ParcelRules"⟩).EndsAt place (.handler "weight" rule)
          unchecked ∧
        (checked.ruleSet parcels ⟨"Parcel"⟩).1 = .error e' ∧
        (checked.scan parcels ⟨"Parcel"⟩ ⟨"ParcelRules"⟩).EndsAt place' checkpoint e' ∧
        place < place' := by
  intro g unchecked compared checked
  have reachable : g.Reachable parcels := ⟨_, _, rfl⟩
  have ordering : (Handler.ordering "Ordering").IsPure := Handler.isPure_direct _ _ _ _ _
  have fixed : (Handler.fixed "Checked" [⟨"checked"⟩] true).IsPure :=
    Handler.isPure_direct _ _ _ _ _
  have pure : ∀ x ∈ compared.registry.handlers, x.IsPure := by
    have handlers : compared.registry.handlers = [.ordering "Ordering"] := rfl
    rw [handlers]
    simpa using ordering
  have pure' : ∀ x ∈ checked.registry.handlers, x.IsPure := by
    have handlers : checked.registry.handlers
        = [.ordering "Ordering", .fixed "Checked" [⟨"checked"⟩] true] := rfl
    rw [handlers]
    simpa using ⟨ordering, fixed⟩
  have failed : (g.ruleSet parcels ⟨"Parcel"⟩).1 = .error unchecked := rfl
  have failed' : ∃ e', (checked.ruleSet parcels ⟨"Parcel"⟩).1 = .error e' := ⟨_, rfl⟩
  obtain ⟨e', failed'⟩ := failed'
  obtain ⟨-, -, -, stays⟩ := later_registrations parcels g reachable ⟨"Parcel"⟩ ⟨"ParcelRules"⟩ rfl
    [.register (.ordering "Ordering")] pure
  obtain ⟨-, -, -, goes_on⟩ := later_registrations parcels g reachable ⟨"Parcel"⟩
    ⟨"ParcelRules"⟩ rfl
    [.register (.ordering "Ordering"), .register (.fixed "Checked" [⟨"checked"⟩] true)] pure'
  obtain ⟨_, _, rule, same, -, unclaimed, -⟩ := stays unchecked failed rfl
  obtain ⟨place, name, rule', same', ended, -, claimed⟩ := goes_on unchecked failed rfl
  obtain ⟨operator, -, -⟩ := Misconfiguration.handlerNotFound.inj same
  obtain ⟨operator', -, property⟩ := Misconfiguration.handlerNotFound.inj same'
  refine ⟨failed, unclaimed ?_, ?_⟩
  · rw [← operator]
    decide
  · rw [← operator'] at claimed
    obtain ⟨h, -, -, further⟩ := claimed (by decide)
    obtain ⟨place', checkpoint, ended', later, -⟩ := further e' failed'
    exact ⟨place, rule', place', checkpoint, e', property ▸ ended, failed', ended', later⟩

end Rulebook
