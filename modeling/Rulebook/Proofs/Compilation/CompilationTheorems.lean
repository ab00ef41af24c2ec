/-
Rulebook.Proofs.Compilation.CompilationTheorems — what compilations come to.

`Rulebook.compile` steps through the caches and may be asked questions by
handlers on the way; with pure handlers, and where the handlers of the declared
rules answer at once, it gives the rule set of its scan all the same, for all
caches and responders.  The theory of scans then says which
definitions compile, to which rules, and with which error the others fail.

The key of the scan is the one in the key cache where that has one for the
metadata type (`Caches.keyInForce`).  The cache need not hold the key of the
definition: asking for the key of some other definition first fills it with
that one.

  §1 The steps  — each step of a compilation does as the scan says.
  §2 Exactness  — the outcome of a compilation, and an example.
-/
import Rulebook.Handler.Ordering
import Rulebook.Proofs.Compilation.ScanTheorems
import Rulebook.Proofs.Handler.RegistryTheorems

namespace Rulebook

/-! ## 1. The steps -/

/-- The key that a compilation for a metadata type uses: the cached one where there is one. -/
def Caches.keyInForce (c : Caches) (m : MetadataType) (d : Definition) : Option String :=
  (c.keys.get? m).getD d.entityKey

/-- Where the cache holds nothing else, the key is that of the definition. -/
theorem Caches.keyInForce_eq {c : Caches} {m : MetadataType} {d : Definition}
    (cached : ∀ key, c.keys.get? m = some key → key = d.entityKey) :
    c.keyInForce m d = d.entityKey := by
  unfold keyInForce
  cases found : c.keys.get? m with
  | none => rfl
  | some key => exact cached key found

theorem Caches.entityKey_fst (c : Caches) (m : MetadataType) (d : Definition) :
    (c.entityKey m d).1 = c.keyInForce m d := by
  unfold entityKey keyInForce
  cases c.keys.get? m <;> rfl

/-- A key that has been looked up is cached. -/
theorem Caches.get?_entityKey (c : Caches) (m : MetadataType) (d : Definition) :
    (c.entityKey m d).2.keys.get? m = some (c.keyInForce m d) := by
  unfold entityKey keyInForce
  cases found : c.keys.get? m with
  | some key => exact found
  | none => simp [FiniteMap.get?_insert]

/-- The cached keys are those of the definitions. -/
def Caches.KeysOf (catalog : Catalog) (c : Caches) : Prop :=
  ∀ m key, c.keys.get? m = some key → key = (catalog.definition m).entityKey

theorem Caches.KeysOf.inForce {catalog : Catalog} {c : Caches} (keys : c.KeysOf catalog) :
    (fun m => c.keyInForce m (catalog.definition m)) = fun m => (catalog.definition m).entityKey :=
  funext fun m => keyInForce_eq (keys m)

/-- Looking up a key caches no other. -/
theorem Caches.cached_of_entityKey {c : Caches} {m other : MetadataType} {d : Definition}
    {key : Option String} (found : (c.entityKey m d).2.keys.get? other = some key) :
    c.keys.get? other = some key ∨ other = m ∧ key = d.entityKey := by
  unfold entityKey at found
  cases absent : c.keys.get? m with
  | some known =>
    rw [absent] at found
    exact .inl found
  | none =>
    simp only [absent, FiniteMap.get?_insert] at found
    split at found
    · rename_i same
      exact .inr ⟨same, (Option.some.inj found).symm⟩
    · exact .inl found

theorem Caches.KeysOf.lookedUp {catalog : Catalog} {c : Caches} (keys : c.KeysOf catalog)
    (m : MetadataType) : (c.entityKey m (catalog.definition m)).2.KeysOf catalog := by
  intro other key found
  rcases cached_of_entityKey found with held | ⟨rfl, rfl⟩
  · exact keys other key held
  · rfl

theorem Caches.sets_entityKey (m : MetadataType) (d : Definition) (c : Caches) :
    (c.entityKey m d).2.sets = c.sets := by
  unfold entityKey
  cases c.keys.get? m <;> rfl

/-- The scan of an entity type that is bound to a metadata type. -/
def Scan.of (catalog : Catalog) (registry : Registry) (type : EntityType) (m : MetadataType)
    (key : Option String) : Scan where
  resolve := registry.resolve
  type := type
  metadata := m
  shape := catalog.shape type
  key := key
  definition := catalog.definition m

section Compilation

open Compiling

variable {inv : Caches → Prop} {registry : Registry} {responder : Responder} {s : Scan}

theorem yields_bindRule (hr : responder.Keeps inv) (pure : s.Pure)
    (routes : s.resolve = registry.resolve) (property : Property) (rule : Rule) :
    Yields inv (bindRule registry responder s.type s.shape property rule)
      (s.bind property rule) := by
  rw [bindRule_eq, ← routes]
  unfold Scan.bind
  cases routed : s.resolve rule.operator with
  | none => exact yields_throw _
  | some handler =>
    apply yields_lift_bind ((pure _ _ routed ⟨s.shape, property, rule⟩).run_eq hr)
    dsimp only
    cases (handler.build ⟨s.shape, property, rule⟩).outcome with
    | error reason => exact yields_throw _
    | ok predicate => exact yields_pure _

theorem yields_requireProperty (name : String) :
    Yields inv (requireProperty s.type s.metadata s.shape name) (s.require name) := by
  unfold requireProperty Scan.require
  cases s.shape.property? name with
  | none => exact yields_throw _
  | some p => exact yields_pure p

/-- The declared rules are bound as the scan says, which keeps the invariant. -/
def Scan.BindsRules (inv : Caches → Prop) (registry : Registry) (responder : Responder)
    (s : Scan) : Prop :=
  ∀ d ∈ s.definition.properties, ∀ rule ∈ d.rules, ∀ property,
    Yields inv (bindRule registry responder s.type s.shape property rule) (s.bind property rule)

theorem Scan.Pure.bindsRules (pure : s.Pure) (hr : responder.Keeps inv)
    (routes : s.resolve = registry.resolve) : s.BindsRules inv registry responder :=
  fun _ _ rule _ property => yields_bindRule hr pure routes property rule

/-- The handlers of the declared rules answer at once, as far as there are any. -/
def Scan.Direct (s : Scan) : Prop :=
  ∀ d ∈ s.definition.properties, ∀ rule ∈ d.rules, ∀ h, s.resolve rule.operator = some h →
    ∀ t, ∃ result, h.build t = .done result

/-- Handlers that answer at once leave the caches alone, whoever there is to ask. -/
theorem Scan.Direct.bindsRules (direct : s.Direct) (routes : s.resolve = registry.resolve) :
    s.BindsRules inv registry responder := by
  intro d declared rule mem property
  rw [bindRule_eq, ← routes]
  unfold Scan.bind
  cases routed : s.resolve rule.operator with
  | none => exact yields_throw _
  | some handler =>
    obtain ⟨result, answered⟩ := direct d declared rule mem handler routed
      ⟨s.shape, property, rule⟩
    simp only [answered]
    apply yields_lift_bind (a := result) fun c hc => ⟨rfl, hc⟩
    cases result with
    | error reason => exact yields_throw _
    | ok predicate => exact yields_pure _

theorem yields_bindProperty (binds : s.BindsRules inv registry responder)
    {declared : DeclaredProperty} (mem : declared ∈ s.definition.properties) :
    Yields inv (bindProperty registry responder s.type s.metadata s.shape declared)
      (s.bindAll declared) := by
  refine (yields_requireProperty declared.name).bind fun property _ => ?_
  exact Yields.mapM declared.rules fun rule here => binds declared mem rule here property

/-- With the key known, a definition is bound as its scan says. -/
theorem yields_bindAll (binds : s.BindsRules inv registry responder) (key : Option Property) :
    Yields inv
      (do
        let rules ← s.definition.properties.mapM
          (bindProperty registry responder s.type s.metadata s.shape)
        return RuleSet.mk s.type key rules.flatten)
      (s.definition.properties.mapM s.bindAll >>= fun rules =>
        .ok (RuleSet.mk s.type key rules.flatten)) := by
  refine Yields.bind ?_ fun rules _ => yields_pure _
  exact Yields.mapM _ fun declared mem => yields_bindProperty binds mem

/-- A definition is bound as the scan says whose key the caches give. -/
theorem bindDefinition_run (binds : s.BindsRules inv registry responder) (c : Caches)
    (hc : inv (c.entityKey s.metadata s.definition).2)
    (key : s.key = c.keyInForce s.metadata s.definition) :
    let run := (bindDefinition registry responder s.type s.metadata s.shape s.definition).run.run c
    run.1 = s.ruleSet ∧ inv run.2 := by
  intro run
  unfold run bindDefinition
  rw [run_onCaches_bind, Caches.entityKey_fst, ← key]
  unfold Scan.ruleSet Scan.keyProperty
  cases s.key with
  | none =>
    have none : Yields inv (Pure.pure (none : Option Property)) (.ok none) := yields_pure none
    have steps := none.bind fun key _ => yields_bindAll binds key
    exact steps _ hc
  | some name =>
    have property : Yields inv (requireProperty s.type s.metadata s.shape name) (s.require name) :=
      yields_requireProperty name
    have steps := (property.map some).bind fun key _ => yields_bindAll binds key
    exact steps _ hc

/-- Compilation fails where there is no binding, and otherwise does as the scan says whose key the
caches give, if that binds its rules. -/
theorem compile_run_of_binds (catalog : Catalog) (bindings : Bindings) (type : EntityType)
    (c : Caches) (hc : inv c) (looked : ∀ m, inv (c.entityKey m (catalog.definition m)).2)
    (binds : ∀ m, bindings.table.get? type = some m →
      (Scan.of catalog registry type m (c.keyInForce m (catalog.definition m))).BindsRules inv
        registry responder) :
    let run := (compile catalog registry bindings responder type).run.run c
    inv run.2 ∧
      run.1 = match bindings.table.get? type with
        | none => .error (.missingBinding type)
        | some m =>
          (Scan.of catalog registry type m (c.keyInForce m (catalog.definition m))).ruleSet := by
  intro run
  unfold run compile Bindings.lookup
  cases bound : bindings.table.get? type with
  | none => exact ⟨hc, rfl⟩
  | some m =>
    obtain ⟨value, kept⟩ := bindDefinition_run (binds m bound) c (looked m) rfl
    exact ⟨kept, value⟩

/-- So it is with pure handlers. -/
theorem compile_run (hr : responder.Keeps inv) (catalog : Catalog) (bindings : Bindings)
    (type : EntityType) (c : Caches)
    (pure : ∀ op h, registry.resolve op = some h → h.IsPure) (hc : inv c)
    (looked : ∀ m, inv (c.entityKey m (catalog.definition m)).2) :
    let run := (compile catalog registry bindings responder type).run.run c
    inv run.2 ∧
      run.1 = match bindings.table.get? type with
        | none => .error (.missingBinding type)
        | some m =>
          (Scan.of catalog registry type m (c.keyInForce m (catalog.definition m))).ruleSet :=
  compile_run_of_binds catalog bindings type c hc looked fun _ _ =>
    Scan.Pure.bindsRules pure hr rfl

/-- The key that a compilation uses is cached after it, if binding the rules leaves it there. -/
theorem key_of_compile {catalog : Catalog} {bindings : Bindings} {type : EntityType}
    {m : MetadataType} {c : Caches} (bound : bindings.table.get? type = some m)
    (binds : (Scan.of catalog registry type m (c.keyInForce m (catalog.definition m))).BindsRules
      (fun c' => c'.keys.get? m = some (c.keyInForce m (catalog.definition m))) registry
      responder) :
    ((compile catalog registry bindings responder type).run.run c).2.keys.get? m
      = some (c.keyInForce m (catalog.definition m)) := by
  unfold compile Bindings.lookup
  rw [bound]
  exact (bindDefinition_run binds c (c.get?_entityKey m _) rfl).2

end Compilation

/-! ## 2. Exactness -/

/-- Compilation succeeds exactly if the type is bound and nothing stands in the way.  The rule set
then has the descriptor of the key and carries the declared rules one by one in their order; a
failure names the first obstacle, of which a missing binding comes before all others.  The key is
that of the definition, unless the cache holds another one for the metadata type; it is cached
afterwards, whether the compilation succeeds or fails, if the handlers of the declared rules make no
requests, and also if they do and these leave it cached. -/
theorem compile_exact (catalog : Catalog) (registry : Registry) (bindings : Bindings)
    (responder : Responder) (caches : Caches) (type : EntityType)
    (pure : ∀ op h, registry.resolve op = some h → h.IsPure) :
    let run := (compile catalog registry bindings responder type).run.run caches
    let result := run.1
    let key m := caches.keyInForce m (catalog.definition m)
    let scan m := Scan.of catalog registry type m (key m)
    ((∃ set, result = .ok set) ↔ ∃ m, bindings.table.get? type = some m ∧ (scan m).Clear) ∧
      (∀ set, result = .ok set → ∃ m, bindings.table.get? type = some m ∧
        set.entity = type ∧ set.key = (key m).bind (catalog.shape type).property? ∧
        set.rules.length = (catalog.definition m).ruleCount ∧
        List.Forall₂ (scan m).Carries (catalog.definition m).declaredRules set.rules) ∧
      (∀ e, result = .error e ↔
        bindings.table.get? type = none ∧ e = .missingBinding type ∨
          ∃ m, bindings.table.get? type = some m ∧ (scan m).firstObstacle = some e) ∧
      (∀ m,
        (∀ cached, caches.keys.get? m = some cached → cached = (catalog.definition m).entityKey) →
          key m = (catalog.definition m).entityKey) ∧
      ∀ m, bindings.table.get? type = some m →
        ((scan m).Direct ∨ responder.Keeps fun c => c.keys.get? m = some (key m)) →
        run.2.keys.get? m = some (key m) := by
  intro run result key scan
  have keeps : responder.Keeps fun _ => True := fun _ _ _ => trivial
  have value := (compile_run keeps catalog bindings type caches pure trivial fun _ => trivial).2
  have cached : ∀ m, bindings.table.get? type = some m →
      ((scan m).Direct ∨ responder.Keeps fun c => c.keys.get? m = some (key m)) →
      run.2.keys.get? m = some (key m) := by
    rintro m bound (direct | keeps)
    · exact key_of_compile bound (Scan.Direct.bindsRules direct rfl)
    · have routed : (scan m).Pure := pure
      exact key_of_compile bound (routed.bindsRules keeps rfl)
  cases bound : bindings.table.get? type with
  | none =>
    have failed : result = .error (.missingBinding type) := by simpa only [bound] using value
    refine ⟨?_, ?_, ?_, fun _ => Caches.keyInForce_eq, ?_⟩ <;> simp [failed, eq_comm]
  | some m =>
    have compiled : result = (scan m).ruleSet := by simpa only [bound] using value
    have routed : (scan m).Pure := pure
    rw [bound] at cached
    simp only [compiled, Option.some.injEq, exists_eq_left', reduceCtorEq, false_and, false_or]
    refine ⟨Scan.exists_ruleSet_iff routed, ?_, fun e => Scan.ruleSet_eq_error_iff,
      fun _ => Caches.keyInForce_eq, fun m' same => cached m' (congrArg some same)⟩
    intro set succeeded
    obtain ⟨entity, descriptor, carried⟩ := Scan.ruleSet_eq_ok routed succeeded
    refine ⟨entity, descriptor, ?_, carried⟩
    rw [← carried.length_eq]
    exact Definition.length_declaredRules _

/-! ### Invoices -/

/-- Entities with an integer `id`, which their metadata marks as key and keeps from being
negative. -/
def invoices : Catalog where
  shape _ := ⟨"Invoice", [⟨"id", 0, .int, false⟩]⟩
  definition _ := .ofSteps
    [⟨"id", [.key, .rule { operator := .greaterThanOrEqual, constant := some (.int 0) }]⟩]
  entries := [⟨"standard", "Ordering", .ordering "Ordering"⟩]
  standardModule := "standard"

/-- The handler of the ordering operators alone. -/
def orderings : Registry := (Registry.empty.register (.ordering "Ordering")).2

/-- Invoices are bound to their rules. -/
def invoiceBindings : Bindings := ⟨FiniteMap.empty.insert ⟨"Invoice"⟩ ⟨"InvoiceRules"⟩⟩

/-- Invoices compile, and their key is cached by then. -/
theorem compile_exact_invoices :
    let run :=
      (compile invoices orderings invoiceBindings Responder.silent ⟨"Invoice"⟩).run.run .empty
    (∀ op h, orderings.resolve op = some h → h.IsPure) ∧
      (∃ set, run.1 = .ok set ∧ set.key = some ⟨"id", 0, .int, false⟩ ∧ set.rules.length = 1) ∧
      run.2.keys.get? ⟨"InvoiceRules"⟩ = some (some "id") := by
  intro run
  have pure : ∀ op h, orderings.resolve op = some h → h.IsPure := by
    intro op h routed
    obtain rfl : h = .ordering "Ordering" := by
      simpa [orderings, Registry.handlers_register, Registry.extended, Registry.empty]
        using Registry.mem_of_resolve routed
    exact Handler.isPure_direct _ _ _ _ _
  obtain ⟨-, carried, -, -, cached⟩ :=
    compile_exact invoices orderings invoiceBindings .silent .empty ⟨"Invoice"⟩ pure
  obtain ⟨set, succeeded⟩ : ∃ set, run.1 = .ok set := ⟨_, rfl⟩
  obtain ⟨m, -, -, key, length, -⟩ := carried set succeeded
  exact ⟨pure, ⟨set, succeeded, key, length⟩,
    cached ⟨"InvoiceRules"⟩ rfl (.inr fun _ _ held => held)⟩

/-- Once the key of another definition has been asked for under the same metadata type, the rule
set has that key, although the definition marks `id`. -/
theorem compiled_key_of_other_definition :
    ∃ set, ((compile invoices orderings invoiceBindings Responder.silent ⟨"Invoice"⟩).run.run
          (Caches.empty.entityKey ⟨"InvoiceRules"⟩ .empty).2).1 = .ok set ∧
      set.key = none ∧
      ((invoices.definition ⟨"InvoiceRules"⟩).entityKey.bind
        (invoices.shape ⟨"Invoice"⟩).property?) = some ⟨"id", 0, .int, false⟩ :=
  ⟨_, rfl, rfl, by decide⟩

end Rulebook
