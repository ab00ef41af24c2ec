/-
Rulebook.Proofs.Engine.CacheTransparency — caches do not show in what an engine
says.

With pure handlers an engine says the same as its history, which has no caches,
whatever it is asked and in whatever order; the two counters that are about the
caches are the only exception.

  §1 Coherence  — caches that hold what the history would compile, and that
                  compilations, nested ones included, keep so.
  §2 Simulation — one request, then runs.

What carries the induction over a run is that the cached rule sets are those
that the history compiles now, although they were compiled earlier: histories
only grow, and what compiles goes on compiling to the same rule set.
-/
import Rulebook.Handler.Fixed
import Rulebook.Proofs.Compilation.Nesting
import Rulebook.Proofs.Engine.HistoryTheorems

namespace Rulebook

/-! ## 1. Coherence -/

/-- The caches hold what the history would compile. -/
structure Coherent (catalog : Catalog) (h : History) (c : Caches) : Prop where
  keys : ∀ m key, c.keys.get? m = some key → key = (catalog.definition m).entityKey
  sets : ∀ type set, c.sets.get? type = some set → h.compile catalog type = .ok set

/-- All handlers of the history are pure. -/
def History.IsPure (h : History) : Prop := ∀ x ∈ h.handlers, x.IsPure

theorem History.Grows.isPure {h h' : History} (grows : h.Grows h') (pure : h'.IsPure) : h.IsPure :=
  fun x mem => pure x (grows.handlers.subset mem)

section Coherence

open Compiling

variable {catalog : Catalog} {h : History} {registry : Registry} {bindings : Bindings}

theorem coherent_empty : Coherent catalog h .empty where
  keys _ _ found := nomatch found
  sets _ _ found := nomatch found

theorem Coherent.keyInForce_eq {c : Caches} (coherent : Coherent catalog h c) (m : MetadataType) :
    c.keyInForce m (catalog.definition m) = (catalog.definition m).entityKey :=
  Caches.keyInForce_eq (coherent.keys m)

/-- Looking up the key of a definition keeps the caches coherent. -/
theorem Coherent.entityKey {c : Caches} (coherent : Coherent catalog h c) (m : MetadataType) :
    Coherent catalog h (c.entityKey m (catalog.definition m)).2 where
  keys := Caches.KeysOf.lookedUp coherent.keys m
  sets type set found := coherent.sets type set (by rwa [Caches.sets_entityKey] at found)

theorem Coherent.reserve {c : Caches} (coherent : Coherent catalog h c) (type : EntityType) :
    Coherent catalog h (c.reserve type) where
  keys := coherent.keys
  sets other set found := coherent.sets other set (c.get?_reserve type other ▸ found)

/-- Storing what the history compiles keeps the caches coherent. -/
theorem Coherent.store {c : Caches} (coherent : Coherent catalog h c) {type : EntityType}
    {set : RuleSet} (compiled : h.compile catalog type = .ok set) :
    Coherent catalog h (c.store type set) := by
  refine ⟨coherent.keys, fun type' set' found => ?_⟩
  rw [Caches.store, SlotMap.get?_fill] at found
  split at found
  · rename_i same
    rw [same, ← Option.some.inj found]
    -- a set that is there already stays, and was coherent
    cases known : c.sets.get? type with
    | none => exact compiled
    | some kept => exact coherent.sets type kept known
  · exact coherent.sets type' set' found

/-- So does whatever attempt ends in what the history compiles. -/
theorem Coherent.afterAttempt {c : Caches} (coherent : Coherent catalog h c) {type : EntityType}
    {result : Except Misconfiguration RuleSet}
    (compiled : ∀ set, result = .ok set → h.compile catalog type = .ok set) :
    Coherent catalog h (c.afterAttempt type result) := by
  cases result with
  | error e => exact coherent
  | ok set => exact coherent.store (compiled set rfl)

theorem History.Describes.resolve_eq (describes : h.Describes registry bindings) :
    registry.resolve = h.resolve := by
  funext op
  rw [describes.slots.resolve_eq, describes.handlers]
  rfl

theorem History.Describes.isPure_of_resolve (describes : h.Describes registry bindings)
    (pure : h.IsPure) {op : Operator} {x : Handler} (routed : registry.resolve op = some x) :
    x.IsPure := by
  apply pure
  rw [← describes.handlers]
  exact Registry.mem_of_resolve routed

/-- Where the caches hold no foreign key, compilation gives what the history compiles, whoever
answers the handlers. -/
theorem compile_fst (describes : h.Describes registry bindings) (pure : h.IsPure)
    (responder : Responder) (type : EntityType) {c : Caches}
    (key : ∀ m, c.keyInForce m (catalog.definition m) = (catalog.definition m).entityKey) :
    ((Rulebook.compile catalog registry bindings responder type).run.run c).1
      = h.compile catalog type := by
  have keeps : responder.Keeps fun _ => True := fun _ _ _ => trivial
  have value := (compile_run keeps catalog bindings type c
    (fun _ _ => describes.isPure_of_resolve pure) trivial fun _ => trivial).2
  rw [value, History.compile, FiniteMap.get?, describes.bindings]
  cases h.bindings.lookup type with
  | none => rfl
  | some m =>
    simp only [Scan.of, describes.resolve_eq, key]
    rfl

/-- From coherent caches, compilation gives what the history compiles. -/
theorem yields_compile (describes : h.Describes registry bindings) (pure : h.IsPure)
    {responder : Responder} (hr : responder.Keeps (Coherent catalog h)) (type : EntityType) :
    Yields (Coherent catalog h) (Rulebook.compile catalog registry bindings responder type)
      (h.compile catalog type) := by
  intro c coherent
  have kept := (compile_run hr catalog bindings type c
    (fun _ _ => describes.isPure_of_resolve pure) coherent coherent.entityKey).1
  exact ⟨compile_fst describes pure responder type coherent.keyInForce_eq, kept⟩

/-- From coherent caches, what is cached is what the history compiles. -/
theorem yields_cachedOrCompiled (describes : h.Describes registry bindings) (pure : h.IsPure)
    {responder : Responder} (hr : responder.Keeps (Coherent catalog h)) (type : EntityType) :
    Yields (Coherent catalog h) (cachedOrCompiled catalog registry bindings responder type)
      (h.compile catalog type) := by
  intro c coherent
  cases found : c.sets.get? type with
  | some set =>
    rw [cachedOrCompiled_of_cached found]
    exact ⟨(coherent.sets type set found).symm, coherent⟩
  | none =>
    obtain ⟨value, kept⟩ := yields_compile describes pure hr type (c.reserve type)
      (coherent.reserve type)
    rw [cachedOrCompiled_of_uncached found]
    exact ⟨value, kept.afterAttempt fun set ended => value.symm.trans ended⟩

/-- Requests inside requests keep the caches coherent, however deep they go. -/
theorem keeps_nestedResponder (describes : h.Describes registry bindings) (pure : h.IsPure)
    (depth : Nat) (chain : List EntityType) :
    Responder.Keeps (Coherent catalog h)
      (nestedResponder catalog registry bindings depth chain) := by
  induction depth generalizing chain with
  | zero =>
    intro type c coherent
    unfold nestedResponder
    split
    · exact coherent
    · exact coherent.reserve type
  | succ depth ih =>
    intro type c coherent
    unfold nestedResponder
    split
    · exact coherent
    · exact (yields_cachedOrCompiled describes pure (ih (type :: chain)) type c coherent).2

/-- From coherent caches, the rule set of a type is what the history compiles. -/
theorem yields_ruleSetOf (describes : h.Describes registry bindings) (pure : h.IsPure)
    (type : EntityType) :
    Yields (Coherent catalog h) (ruleSetOf catalog registry bindings type)
      (h.compile catalog type) :=
  yields_cachedOrCompiled describes pure
    (keeps_nestedResponder describes pure bindings.size [type]) type

theorem Coherent.grow {h' : History} {c : Caches} (coherent : Coherent catalog h c)
    (grows : h.Grows h') : Coherent catalog h' c :=
  ⟨coherent.keys, fun type set found => grows.compile_eq (coherent.sets type set found)⟩

end Coherence

/-! ## 2. Simulation -/

/-- The reply without the counters that are about the caches. -/
def Reply.hideCaches : Reply → Reply
  | .counters c => .counters { c with compiledTypes := 0, compilations := 0 }
  | reply => reply

theorem Reply.failed_hideCaches (reply : Reply) : reply.hideCaches.failed = reply.failed := by
  cases reply <;> rfl

/-- The engine is where its history says, and its caches are coherent. -/
structure Engine.Follows (catalog : Catalog) (g : Engine) (h : History) : Prop extends
    g.Tracks h where
  coherent : Coherent catalog h g.caches

namespace Engine.Follows

variable {catalog : Catalog} {g : Engine} {h : History}

theorem ofSettings (settings : Settings) :
    (Engine.ofSettings catalog settings).Follows catalog (.ofSettings catalog settings) := by
  refine ⟨.ofSettings settings, ?_⟩
  have fresh : (Engine.ofSettings catalog settings).caches = .empty := by
    unfold Engine.ofSettings
    dsimp only
    split <;> split <;> rfl
  rw [fresh]
  exact coherent_empty

theorem ruleSet (follows : g.Follows catalog h) (pure : h.IsPure) (type : EntityType) :
    (g.ruleSet catalog type).1 = h.compile catalog type ∧
      (g.ruleSet catalog type).2.Follows catalog h := by
  obtain ⟨value, coherent⟩ :=
    yields_ruleSetOf follows.describes pure type g.caches follows.coherent
  exact ⟨value, ⟨follows.settings, follows.describes⟩, coherent⟩

/-- One request: the engine says what its history says, and still follows it. -/
theorem serve (follows : g.Follows catalog h) (pure : h.IsPure) (q : Request) :
    (g.serve catalog q).1.hideCaches = (h.serve catalog q).1 ∧
      (g.serve catalog q).2.Follows catalog (h.serve catalog q).2 := by
  have tracks := follows.toTracks.serve catalog q
  have grown := follows.coherent.grow (h.grows_serve catalog q)
  -- the first three leave the caches as they are, the others the history
  cases q with
  | bind type m =>
    rw [← g.caches_bind type m] at grown
    exact ⟨congrArg Reply.bound (follows.bind type m).1, tracks, grown⟩
  | register x => exact ⟨rfl, tracks, grown⟩
  | discover modules =>
    exact ⟨congrArg Reply.discovered (follows.discover catalog modules).1, tracks, grown⟩
  | ruleSet type =>
    obtain ⟨value, next⟩ := follows.ruleSet pure type
    exact ⟨congrArg Reply.ruleSet value, next⟩
  | validation type batch =>
    obtain ⟨value, next⟩ := follows.ruleSet pure type
    refine ⟨congrArg Reply.validation ?_, next⟩
    rw [← value, ← next.settings]
    rfl
  | reports type batch =>
    obtain ⟨value, next⟩ := follows.ruleSet pure type
    refine ⟨congrArg Reply.reports ?_, next⟩
    rw [← value, ← next.settings]
    exact g.reports_fst catalog type batch
  | report type entity =>
    obtain ⟨value, next⟩ := follows.ruleSet pure type
    refine ⟨congrArg Reply.report ?_, next⟩
    rw [← value, ← next.settings]
    rfl
  | counters =>
    have boundTypes : g.bindings.size = h.bindings.length :=
      congrArg List.length follows.describes.bindings
    have handlers : g.registry.size = h.handlers.length :=
      congrArg List.length follows.describes.handlers
    refine ⟨?_, follows⟩
    simp [Engine.serve, Engine.counters, Reply.hideCaches, History.serve, boundTypes, handlers]

/-- Runs: the engine says what its history says, request by request. -/
theorem run (follows : g.Follows catalog h) {requests : List Request}
    (pure : (h.run catalog requests).2.IsPure) :
    (g.run catalog requests).1.map Reply.hideCaches = (h.run catalog requests).1 ∧
      (g.run catalog requests).2.Follows catalog (h.run catalog requests).2 := by
  induction requests generalizing g h with
  | nil => exact ⟨rfl, follows⟩
  | cons q qs ih =>
    have now : h.IsPure := (h.grows_run catalog (q :: qs)).isPure pure
    obtain ⟨reply, next⟩ := follows.serve now q
    obtain ⟨replies, last⟩ := ih next pure
    exact ⟨congrArg₂ List.cons reply replies, last⟩

/-- A request that cannot be granted does not show in what the engine says later. -/
theorem run_of_failed (follows : g.Follows catalog h) {q : Request} {after : List Request}
    (pure : ((h.serve catalog q).2.run catalog after).2.IsPure)
    (failed : (g.serve catalog q).1.failed) :
    ((g.serve catalog q).2.run catalog after).1.map Reply.hideCaches
      = (g.run catalog after).1.map Reply.hideCaches := by
  have now : h.IsPure := (h.grows_run catalog (q :: after)).isPure pure
  obtain ⟨reply, next⟩ := follows.serve now q
  -- the history fails as well, and so stays what it was: both runs follow it
  have failed' : (h.serve catalog q).1.failed := by rw [← reply, Reply.failed_hideCaches, failed]
  rw [History.serve_of_failed failed'] at next pure
  rw [(next.run pure).1, (follows.run pure).1]

end Engine.Follows

/-- If the handlers that it registers are pure, an engine says in every run what its history says,
which has no caches.  What is cached at the end is what a compilation from the start would give
then, and a request that cannot be granted does not show in anything later. -/
theorem caches_transparent (catalog : Catalog) (settings : Settings) (requests : List Request)
    (pure : ∀ x ∈ ((Engine.ofSettings catalog settings).run catalog requests).2.registry.handlers,
      x.IsPure) :
    let start := Engine.ofSettings catalog settings
    let last := (start.run catalog requests).2
    (start.run catalog requests).1.map Reply.hideCaches
        = ((History.ofSettings catalog settings).run catalog requests).1 ∧
      (∀ type set, last.caches.sets.get? type = some set → ∀ responder : Responder,
        ((compile catalog last.registry last.bindings responder type).run.run .empty).1
          = .ok set) ∧
      ∀ before q after, requests = before ++ q :: after →
        let g := (start.run catalog before).2
        (g.serve catalog q).1.failed →
          ((g.serve catalog q).2.run catalog after).1.map Reply.hideCaches
            = (g.run catalog after).1.map Reply.hideCaches := by
  intro start last
  have started : start.Follows catalog (.ofSettings catalog settings) := .ofSettings settings
  have pure' : ((History.ofSettings catalog settings).run catalog requests).2.IsPure := by
    have tracks := started.toTracks.run catalog requests
    intro x mem
    rw [← tracks.describes.handlers] at mem
    exact pure x mem
  obtain ⟨replies, follows⟩ := started.run pure'
  refine ⟨replies, ?_, ?_⟩
  · intro type set cached responder
    rw [compile_fst follows.describes pure' responder type fun _ => rfl]
    exact follows.coherent.sets type set cached
  · rintro before q after rfl g failed
    rw [History.run_append] at pure'
    have earlier := (History.grows_run catalog _ (q :: after)).isPure pure'
    exact (started.run earlier).2.run_of_failed pure' failed

/-- Invoices are asked for too early, then bound and compiled, and another handler claims their
operator too late. -/
def invoiceRun : List Request :=
  [.ruleSet ⟨"Invoice"⟩, .register (.ordering "Ordering"), .bind ⟨"Invoice"⟩ ⟨"InvoiceRules"⟩,
    .ruleSet ⟨"Invoice"⟩, .register (.fixed "Never" [.greaterThanOrEqual] false),
    .report ⟨"Invoice"⟩ (.ofList [.int 3]), .counters]

theorem caches_transparent_invoices :
    let start := Engine.ofSettings invoices { builtinHandlers := false }
    let last := (start.run invoices invoiceRun).2
    (∀ x ∈ last.registry.handlers, x.IsPure) ∧
      (start.run invoices invoiceRun).1.map Reply.hideCaches
        = ((History.ofSettings invoices { builtinHandlers := false }).run invoices invoiceRun).1 ∧
      (∃ set, last.caches.sets.get? ⟨"Invoice"⟩ = some set ∧
        ((compile invoices last.registry last.bindings Responder.silent
          ⟨"Invoice"⟩).run.run .empty).1 = .ok set) ∧
      (start.serve invoices (.ruleSet ⟨"Invoice"⟩)).1.failed ∧
      ((start.serve invoices (.ruleSet ⟨"Invoice"⟩)).2.run invoices invoiceRun.tail).1.map
          Reply.hideCaches
        = (start.run invoices invoiceRun.tail).1.map Reply.hideCaches := by
  intro start last
  have handlers : last.registry.handlers
      = [.ordering "Ordering", .fixed "Never" [.greaterThanOrEqual] false] := rfl
  have pure : ∀ x ∈ last.registry.handlers, x.IsPure := by
    rw [handlers]
    simp only [List.forall_mem_cons]
    exact ⟨Handler.isPure_direct _ _ _ _ _, Handler.isPure_direct _ _ _ _ _,
      fun _ none => nomatch none⟩
  obtain ⟨replies, fresh, unseen⟩ :=
    caches_transparent invoices { builtinHandlers := false } invoiceRun pure
  have cached : ∃ set, last.caches.sets.get? ⟨"Invoice"⟩ = some set := ⟨_, rfl⟩
  obtain ⟨set, cached⟩ := cached
  have failed : (start.serve invoices (.ruleSet ⟨"Invoice"⟩)).1.failed := rfl
  exact ⟨pure, replies, ⟨set, cached, fresh _ set cached Responder.silent⟩, failed,
    unseen [] _ invoiceRun.tail rfl failed⟩

end Rulebook
