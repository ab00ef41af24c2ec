/-
Rulebook.Proofs.Engine.CacheInvariants — each type is compiled at most once, and
the engine counts that correctly.

Handlers may ask for rule sets while others are being compiled, and some of the
outer compilations fail after inner ones have succeeded.  The counter, the map of
rule sets and the number of its entries still agree in every state that a run can
reach, since a rule set is only stored for a type that has none.

  §1 Writing    — what can have been written into caches, and how often.
  §2 Growth     — `Adds new c c'`: the caches have gained rule sets for exactly
                  the types `new`, each by one compilation.
  §3 Runs       — growth from empty caches, request by request.

The log of compilations in §1 counts every one that succeeds, also one that would
be for a type compiled before; that there is no such is what has to be proved.
-/
import Rulebook.Proofs.Compilation.HandlerCalls
import Rulebook.Proofs.Engine.Invariants

namespace Rulebook

namespace Caches

/-! ## 1. Writing -/

/-- The caches are what looking up keys, reserving slots and storing the rule sets of successful
compilations has made of empty ones; the compilations were those of the listed types, in this
order. -/
inductive WrittenBy : List EntityType → Caches → Prop
  | nothing : WrittenBy [] .empty
  | lookedUp {log : List EntityType} {c : Caches} (m : MetadataType) (d : Definition)
      (h : WrittenBy log c) : WrittenBy log (c.entityKey m d).2
  | reserved {log : List EntityType} {c : Caches} (type : EntityType) (h : WrittenBy log c) :
      WrittenBy log (c.reserve type)
  | compiled {log : List EntityType} {c : Caches} (type : EntityType) (set : RuleSet)
      (h : WrittenBy log c) : WrittenBy (log ++ [type]) (c.store type set)

theorem compilations_entityKey (m : MetadataType) (d : Definition) (c : Caches) :
    (c.entityKey m d).2.compilations = c.compilations := by
  unfold entityKey
  cases c.keys.get? m <;> rfl

/-- Every compilation is counted. -/
theorem WrittenBy.compilations_eq {log : List EntityType} {c : Caches} (h : c.WrittenBy log) :
    c.compilations = log.length := by
  induction h with
  | nothing => rfl
  | lookedUp m d _ ih => rw [compilations_entityKey, ih]
  | reserved _ _ ih => exact ih
  | compiled type set _ ih => simp [store, ih]

/-- Only the first compilation of a type makes an entry. -/
theorem WrittenBy.keys_sublist {log : List EntityType} {c : Caches} (h : c.WrittenBy log) :
    c.sets.keys.Sublist log := by
  induction h with
  | nothing => exact .slnil
  | lookedUp m d _ ih => rwa [sets_entityKey]
  | reserved type _ ih => rwa [reserve, SlotMap.keys_reserve]
  | @compiled log c type set _ ih =>
    cases found : c.sets.get? type with
    | some known =>
      rw [store, SlotMap.fill_of_some found]
      exact ih.trans (List.sublist_append_left log [type])
    | none =>
      rw [store, SlotMap.keys_fill_of_none found]
      exact ih.append (List.Sublist.refl [type])

/-- If there are as many compilations as entries, the log of compilations lists the entries. -/
theorem WrittenBy.log_eq {log : List EntityType} {c : Caches} (h : c.WrittenBy log)
    (counted : c.compilations = c.sets.size) : log = c.sets.keys := by
  have sizes : c.sets.keys.length = log.length := by
    rw [SlotMap.length_keys, ← counted, h.compilations_eq]
  exact (h.keys_sublist.eq_of_length sizes).symm

/-! ## 2. Growth -/

/-- The later caches have gained rule sets for exactly the types `new`, in this order, each by one
successful compilation, and have kept all others. -/
structure Adds (new : List EntityType) (c c' : Caches) : Prop where
  keys : c'.sets.keys = c.sets.keys ++ new
  kept : ∀ type set, c.sets.get? type = some set → c'.sets.get? type = some set
  fresh : ∀ type ∈ new, c.sets.get? type = none
  distinct : new.Nodup
  counted : c'.compilations = c.compilations + new.length
  written : ∀ log, c.WrittenBy log → c'.WrittenBy (log ++ new)

namespace Adds

variable {new more : List EntityType} {c c' c'' : Caches}

theorem refl (c : Caches) : Adds [] c c where
  keys := (List.append_nil _).symm
  kept _ _ h := h
  fresh _ none := absurd none List.not_mem_nil
  distinct := .nil
  counted := rfl
  written log h := (List.append_nil log).symm ▸ h

/-- What has been gained is there. -/
theorem mem_keys (adds : Adds new c c') {type : EntityType} (mem : type ∈ new) :
    type ∈ c'.sets.keys := by
  rw [adds.keys]
  exact List.mem_append_right _ mem

/-- What has been gained is what there is now and was not before. -/
theorem mem_iff (adds : Adds new c c') (type : EntityType) :
    type ∈ new ↔ c.sets.get? type = none ∧ ∃ set, c'.sets.get? type = some set := by
  rw [SlotMap.contains_iff_mem_keys, adds.keys, List.mem_append, SlotMap.get?_eq_none_iff]
  constructor
  · exact fun mem => ⟨SlotMap.get?_eq_none_iff.mp (adds.fresh type mem), .inr mem⟩
  · rintro ⟨absent, mem⟩
    exact mem.resolve_left absent

theorem trans (first : Adds new c c') (second : Adds more c' c'') : Adds (new ++ more) c c'' where
  keys := by rw [second.keys, first.keys, List.append_assoc]
  kept type set h := second.kept type set (first.kept type set h)
  fresh type mem := by
    rcases List.mem_append.mp mem with mem | mem
    · exact first.fresh type mem
    · cases found : c.sets.get? type with
      | none => rfl
      | some set => exact ((second.fresh type mem).symm.trans (first.kept type set found)).symm
  distinct := by
    refine List.nodup_append.mpr ⟨first.distinct, second.distinct, ?_⟩
    rintro type early _ late rfl
    exact SlotMap.get?_eq_none_iff.mp (second.fresh type late) (first.mem_keys early)
  counted := by rw [second.counted, first.counted, List.length_append, Nat.add_assoc]
  written log h := List.append_assoc log new more ▸ second.written _ (first.written log h)

theorem lookedUp (c : Caches) (m : MetadataType) (d : Definition) :
    Adds [] c (c.entityKey m d).2 where
  keys := by rw [sets_entityKey, List.append_nil]
  kept _ _ h := by rwa [sets_entityKey]
  fresh _ none := absurd none List.not_mem_nil
  distinct := .nil
  counted := compilations_entityKey m d c
  written log h := (List.append_nil log).symm ▸ h.lookedUp m d

theorem reserved (c : Caches) (type : EntityType) : Adds [] c (c.reserve type) where
  keys := by rw [reserve, SlotMap.keys_reserve, List.append_nil]
  kept other _ h := (c.get?_reserve type other).trans h
  fresh _ none := absurd none List.not_mem_nil
  distinct := .nil
  counted := rfl
  written log h := (List.append_nil log).symm ▸ h.reserved type

theorem stored {type : EntityType} (uncached : c.sets.get? type = none) (set : RuleSet) :
    Adds [type] c (c.store type set) where
  keys := SlotMap.keys_fill_of_none uncached set
  kept _ _ h := SlotMap.get?_fill_of_some h type set
  fresh _ mem := List.mem_singleton.mp mem ▸ uncached
  distinct := List.pairwise_singleton _ type
  counted := rfl
  written _ h := h.compiled type set

end Adds
end Caches

/-! ### Requests of handlers -/

/-- The later caches have gained rule sets of bound types only, and of such that a handler may ask
for. -/
def Caches.Gains (registry : Registry) (bindings : Bindings) (c c' : Caches) : Prop :=
  ∃ new, c.Adds new c' ∧ ∀ type ∈ new, registry.Asks type ∧ bindings.isBound type

theorem Caches.Gains.refl (registry : Registry) (bindings : Bindings) (c : Caches) :
    Caches.Gains registry bindings c c :=
  ⟨[], .refl c, fun _ none => absurd none List.not_mem_nil⟩

theorem preserved_gains (catalog : Catalog) (registry : Registry) (bindings : Bindings)
    (c : Caches) : Preserved catalog registry bindings (Caches.Gains registry bindings c) where
  looks later gains m := by
    obtain ⟨new, adds, asked⟩ := gains
    exact ⟨new, List.append_nil new ▸ adds.trans (.lookedUp later m _), asked⟩
  reserves later gains type := by
    obtain ⟨new, adds, asked⟩ := gains
    exact ⟨new, List.append_nil new ▸ adds.trans (.reserved later type), asked⟩
  stores type asks set start later _ gains uncached compiled := by
    obtain ⟨new, adds, asked⟩ := gains
    obtain ⟨m, held, -⟩ := compiled
    refine ⟨new ++ [type], adds.trans (.stored uncached set), fun other mem => ?_⟩
    rcases List.mem_append.mp mem with mem | mem
    · exact asked other mem
    · rw [List.mem_singleton.mp mem]
      exact ⟨asks, Bindings.isBound_iff.mpr ⟨m, held⟩⟩

/-- What is cached is what handlers are answered with: nothing is written, and no handler called. -/
theorem nestedResponder_of_cached {σ : Type} [Workspace σ] (catalog : Catalog)
    (registry : Registry) (bindings : Bindings) {depth : Nat} {chain : List EntityType}
    {type : EntityType} {s : σ} {set : RuleSet} (lacks : (Workspace.caches s).Lacks chain)
    (cached : (Workspace.caches s).sets.get? type = some set) (deep : 0 < depth) :
    (nestedResponder catalog registry bindings depth chain type).run s
      = (.outcome (.ok set), s) := by
  have outside : type ∉ chain := fun mem => nomatch (lacks type mem).symm.trans cached
  obtain ⟨depth, rfl⟩ := Nat.exists_eq_add_one.mpr deep
  unfold nestedResponder
  rw [if_neg outside]
  change ((fun served => (Answer.outcome served.1, served.2))
    ((cachedOrCompiled catalog registry bindings _ type).run.run s)) = _
  rw [cachedOrCompiled_of_cached cached]

/-- A request of a handler removes and replaces nothing; what it is answered with is then cached. -/
theorem nestedResponder_caches (catalog : Catalog) (registry : Registry) (bindings : Bindings)
    {depth : Nat} {chain : List EntityType} {type : EntityType} {c : Caches}
    (asked : registry.Asks type) (lacks : c.Lacks chain) :
    let nested := (nestedResponder catalog registry bindings depth chain type).run c
    (∀ other set, c.sets.get? other = some set → nested.2.sets.get? other = some set) ∧
      ∀ set, nested.1 = .outcome (.ok set) → nested.2.sets.get? type = some set := by
  have preserved := preserved_gains catalog registry bindings c
  have start : Caches.Gains registry bindings c c ∧ c.Lacks chain :=
    ⟨.refl registry bindings c, lacks⟩
  obtain ⟨⟨new, adds, -⟩, -⟩ := preserved.nestedResponder depth asked start
  exact ⟨adds.kept, fun set => preserved.cached_of_nestedResponder asked start⟩

/-! ## 3. Runs -/

namespace Engine

/-- Binding leaves bound what is bound. -/
theorem get?_bind {g : Engine} {type : EntityType} {m : MetadataType}
    (bound : g.bindings.table.get? type = some m) (other : EntityType) (m' : MetadataType) :
    (g.bind other m').2.bindings.table.get? type = some m := by
  unfold bind Bindings.bind
  cases vacant : g.bindings.table.get? other with
  | some existing => exact bound
  | none => exact FiniteMap.get?_insert_of_vacant bound vacant m'

/-- The caches have grown from empty ones, by rule sets of bound types. -/
def Grown (g : Engine) : Prop :=
  ∃ new, Caches.empty.Adds new g.caches ∧ ∀ type ∈ new, g.bindings.isBound type

theorem invariant_grown (catalog : Catalog) : Invariant catalog Grown where
  binds g other m := by
    rintro ⟨new, adds, bound⟩
    refine ⟨new, (g.caches_bind other m).symm ▸ adds, fun type mem => ?_⟩
    obtain ⟨held, found⟩ := Bindings.isBound_iff.mp (bound type mem)
    exact Bindings.isBound_iff.mpr ⟨held, get?_bind found other m⟩
  registers g h grown := grown
  looks g m := by
    rintro ⟨new, adds, bound⟩
    exact ⟨new, List.append_nil new ▸ adds.trans (.lookedUp _ m _), bound⟩
  reserves g type := by
    rintro ⟨new, adds, bound⟩
    exact ⟨new, List.append_nil new ▸ adds.trans (.reserved _ type), bound⟩
  stores g start type set _ := by
    rintro ⟨new, adds, bound⟩ uncached ⟨m, held, -⟩
    refine ⟨new ++ [type], adds.trans (.stored uncached set), fun other mem => ?_⟩
    rcases List.mem_append.mp mem with mem | mem
    · exact bound other mem
    · rw [List.mem_singleton.mp mem]
      exact Bindings.isBound_iff.mpr ⟨m, held⟩

theorem grown_after (catalog : Catalog) (settings : Settings) (steps : List (Catalog × Request)) :
    ((Engine.ofSettings catalog settings).after steps).Grown := by
  have bare : Grown { settings := settings } :=
    ⟨[], .refl .empty, fun _ none => absurd none List.not_mem_nil⟩
  exact Invariant.after invariant_grown ((invariant_grown catalog).ofSettings bare) steps

/-- Only bound types have rule sets, and they are counted correctly. -/
theorem Grown.counts {g : Engine} (grown : g.Grown) :
    g.counters.compilations = g.counters.compiledTypes ∧
      g.counters.compiledTypes ≤ g.counters.boundTypes ∧
      ∀ type set, g.caches.sets.get? type = some set → g.bindings.isBound type := by
  obtain ⟨new, adds, bound⟩ := grown
  have keys : g.caches.sets.keys = new := adds.keys
  have size : g.caches.sets.size = new.length := by rw [← SlotMap.length_keys, keys]
  have held : new ⊆ g.bindings.table.keys := fun type mem =>
    FiniteMap.contains_iff_mem_keys.mp (bound type mem)
  refine ⟨?_, ?_, fun type set cached => ?_⟩
  · change g.caches.compilations = g.caches.sets.size
    rw [adds.counted, size]
    exact Nat.zero_add _
  · change g.caches.sets.size ≤ g.bindings.table.size
    rw [size, ← FiniteMap.length_keys]
    exact (List.subperm_of_subset adds.distinct held).length_le
  · have mem : type ∈ g.caches.sets.keys := SlotMap.contains_iff_mem_keys.mp ⟨set, cached⟩
    exact bound type (keys ▸ mem)

end Engine

/-- In every state of an engine, however its handlers ask for rule sets while others are compiled
and whichever compilations fail: as many compilations have succeeded as there are cached rule sets,
all of them of bound types and one for each; and what was answered once is answered ever after,
without any effect, and without a call of any handler.  The same holds of what handlers are answered
with on the way, and their requests may nest as deeply as there are types: a larger bound on the
depth changes nothing. -/
theorem cache_invariants (catalog : Catalog) (settings : Settings)
    (steps : List (Catalog × Request)) :
    let g := (Engine.ofSettings catalog settings).after steps
    g.counters.compilations = g.counters.compiledTypes ∧
      g.counters.compiledTypes ≤ g.counters.boundTypes ∧
      (∀ type set, g.caches.sets.get? type = some set → g.bindings.isBound type) ∧
      (∃ log, g.caches.WrittenBy log) ∧
      (∀ log, g.caches.WrittenBy log → log.Nodup ∧ log = g.caches.sets.keys) ∧
      (∀ now type set, (g.ruleSet now type).1 = .ok set → ∀ between later,
        let h := (g.ruleSet now type).2.after between
        h.ruleSet later type = (.ok set, h) ∧
          ∀ calls, (ruleSetOf later h.registry h.bindings type).run.run (CallLog.mk h.caches calls)
            = (.ok set, ⟨h.caches, calls⟩)) ∧
      (∀ now type depth, g.bindings.size ≤ depth →
        (cachedOrCompiled now g.registry g.bindings
          (nestedResponder now g.registry g.bindings depth [type]) type).run.run g.caches
          = (ruleSetOf now g.registry g.bindings type).run.run g.caches) ∧
      ∀ now depth chain type (c : Caches), g.registry.Asks type → c.Lacks chain →
        let nested := (nestedResponder now g.registry g.bindings depth chain type).run c
        (∀ other set, c.sets.get? other = some set → nested.2.sets.get? other = some set) ∧
          (∀ set, nested.1 = .outcome (.ok set) → nested.2.sets.get? type = some set) ∧
          ∀ set, c.sets.get? type = some set → 0 < depth → nested = (.outcome (.ok set), c) ∧
            ∀ calls, (nestedResponder now g.registry g.bindings depth chain type).run
              (CallLog.mk c calls) = (.outcome (.ok set), ⟨c, calls⟩) := by
  intro g
  have grown : g.Grown := Engine.grown_after catalog settings steps
  obtain ⟨counted, fits, bound⟩ := grown.counts
  obtain ⟨new, adds, -⟩ := grown
  have keys : g.caches.sets.keys = new := adds.keys
  refine ⟨counted, fits, bound, ⟨new, adds.written [] .nothing⟩, fun log written => ?_, ?_,
    fun now type depth enough => ruleSetOf_eq_of_size_le enough bound, ?_⟩
  · have same : log = g.caches.sets.keys := written.log_eq counted
    refine ⟨?_, same⟩
    rw [same, keys]
    exact adds.distinct
  · intro now type set answered between later h
    have cached : h.caches.sets.get? type = some set :=
      Engine.Invariant.after (fun catalog => Engine.invariant_cached catalog type set)
        (Engine.cached_of_ruleSet answered) between
    exact ⟨Engine.ruleSet_of_cached cached, fun calls => cachedOrCompiled_of_cached cached⟩
  · intro now depth chain type c asked lacks nested
    obtain ⟨kept, answered⟩ := nestedResponder_caches now g.registry g.bindings asked lacks
    refine ⟨kept, answered, fun set cached deep => ⟨?_, fun calls => ?_⟩⟩
    · exact nestedResponder_of_cached now g.registry g.bindings lacks cached deep
    · exact nestedResponder_of_cached (s := CallLog.mk c calls) now g.registry g.bindings lacks
        cached deep

end Rulebook
