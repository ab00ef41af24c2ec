/-
Rulebook.Proofs.Engine.HistoryTheorems — engines without caches.

A `History` keeps of an engine what was done to it: the registered handlers and
the bindings, both in order.  It serves the same requests, and compiles a type
anew whenever that is asked for, from the type's binding and the handlers
registered so far.

  §1 Histories — the operations of an engine, without caches.
  §2 Growth    — a history only grows at the end, and what it compiles stays
                 as it is.
  §3 Tracking  — settings, handlers and bindings of an engine are those of its
                 history, whatever the handlers do; nothing is said here about
                 the caches.
-/
import Rulebook.Proofs.Compilation.ScanTheorems
import Rulebook.Proofs.Engine.Requests
import Rulebook.Proofs.Handler.RegistryTheorems

namespace Rulebook

/-! ## 1. Histories -/

/-- An engine without caches. -/
structure History where
  settings : Settings := {}
  /-- The registered handlers in order. -/
  handlers : List Handler := []
  /-- The bindings that were made, in order. -/
  bindings : List (EntityType × MetadataType) := []

namespace History

/-- The handler of an operator: the first registered one that claims it. -/
def resolve (h : History) (op : Operator) : Option Handler := h.handlers.find? (·.claims op)

/-- The scan of an entity type that is bound to a metadata type. -/
def scan (catalog : Catalog) (h : History) (type : EntityType) (m : MetadataType) : Scan where
  resolve := h.resolve
  type := type
  metadata := m
  shape := catalog.shape type
  key := (catalog.definition m).entityKey
  definition := catalog.definition m

/-- Compiles an entity type from its first binding and the handlers registered so far. -/
def compile (catalog : Catalog) (h : History) (type : EntityType) :
    Except Misconfiguration RuleSet :=
  match h.bindings.lookup type with
  | none => .error (.missingBinding type)
  | some m => (h.scan catalog type m).ruleSet

/-- Binds an entity type, unless it is bound already. -/
def bind (type : EntityType) (m : MetadataType) (h : History) :
    Except Misconfiguration Unit × History :=
  match h.bindings.lookup type with
  | some existing => (.error (.duplicateBinding type existing m), h)
  | none => (.ok (), { h with bindings := h.bindings ++ [(type, m)] })

/-- Registers a handler, unless its type is registered. -/
def register (handler : Handler) (h : History) : History :=
  { h with handlers := Registry.extended h.handlers handler }

/-- Registers the handlers of entries one by one. -/
def registerAll (es : List HandlerEntry) (h : History) : History :=
  es.foldl (fun h e => h.register e.handler) h

/-- Registers the handlers of modules; gives the number of new ones. -/
def discover (catalog : Catalog) (modules : List String) (h : History) : Nat × History :=
  let next := h.registerAll (Registry.found catalog.entries modules)
  (next.handlers.length - h.handlers.length, next)

/-- The history of an engine with the given settings. -/
def ofSettings (catalog : Catalog) (settings : Settings) : History :=
  let bare : History := { settings := settings }
  let standard :=
    if settings.builtinHandlers then (bare.discover catalog [catalog.standardModule]).2 else bare
  if settings.discover.isEmpty then standard else (standard.discover catalog settings.discover).2

/-- Serves a request.  There are no caches to count. -/
def serve (catalog : Catalog) (h : History) : Request → Reply × History
  | .bind type m => (h.bind type m).map .bound id
  | .register handler => (.registered, h.register handler)
  | .discover modules => (h.discover catalog modules).map .discovered id
  | .ruleSet type => (.ruleSet (h.compile catalog type), h)
  | .validation type batch =>
    (.validation ((h.compile catalog type).map (⟨·, h.settings.evaluation, batch⟩)), h)
  | .reports type batch =>
    (.reports ((h.compile catalog type).map fun set =>
      batch.map (set.evaluate h.settings.evaluation)), h)
  | .report type entity =>
    (.report ((h.compile catalog type).map (·.evaluate h.settings.evaluation entity)), h)
  | .counters =>
    (.counters { boundTypes := h.bindings.length
                 handlers := h.handlers.length
                 compiledTypes := 0
                 compilations := 0 }, h)

/-- Serves requests one after another. -/
def run (catalog : Catalog) : History → List Request → List Reply × History
  | h, [] => ([], h)
  | h, q :: qs =>
    let (reply, next) := h.serve catalog q
    let (replies, last) := next.run catalog qs
    (reply :: replies, last)

theorem run_append (catalog : Catalog) (h : History) (before after : List Request) :
    (h.run catalog (before ++ after)).2 = ((h.run catalog before).2.run catalog after).2 := by
  induction before generalizing h with
  | nil => rfl
  | cons q qs ih => exact ih (h.serve catalog q).2

/-- A request that cannot be granted leaves no trace. -/
theorem serve_of_failed {catalog : Catalog} {h : History} {q : Request}
    (failed : (h.serve catalog q).1.failed) : (h.serve catalog q).2 = h := by
  cases q with
  | bind type m =>
    cases known : h.bindings.lookup type with
    | none => simp [serve, bind, known, Reply.failed, Except.isOk, Except.toBool] at failed
    | some existing => simp [serve, bind, known]
  | register handler => simp [serve, Reply.failed] at failed
  | discover modules => simp [serve, Reply.failed] at failed
  | ruleSet type => rfl
  | validation type batch => rfl
  | reports type batch => rfl
  | report type entity => rfl
  | counters => rfl

/-! ## 2. Growth -/

variable {catalog : Catalog} {h h' : History}

/-- Handlers and bindings have only been added, at the end. -/
structure Grows (h h' : History) : Prop where
  handlers : h.handlers <+: h'.handlers
  bindings : h.bindings <+: h'.bindings

theorem Grows.refl (h : History) : h.Grows h := ⟨List.prefix_rfl, List.prefix_rfl⟩

theorem Grows.trans {h'' : History} (first : h.Grows h') (second : h'.Grows h'') : h.Grows h'' :=
  ⟨first.handlers.trans second.handlers, first.bindings.trans second.bindings⟩

/-- A type that has been bound stays bound to the same metadata type. -/
theorem Grows.lookup_eq (grows : h.Grows h') {type : EntityType} {m : MetadataType}
    (bound : h.bindings.lookup type = some m) : h'.bindings.lookup type = some m := by
  obtain ⟨later, same⟩ := grows.bindings
  rw [← same, List.lookup_append, bound]
  rfl

/-- What compiles goes on compiling to the same rule set. -/
theorem Grows.compile_eq (grows : h.Grows h') {type : EntityType} {set : RuleSet}
    (compiled : h.compile catalog type = .ok set) : h'.compile catalog type = .ok set := by
  unfold compile at compiled ⊢
  cases bound : h.bindings.lookup type with
  | none => rw [bound] at compiled; cases compiled
  | some m =>
    rw [bound] at compiled
    rw [grows.lookup_eq bound]
    exact Scan.ruleSet_mono (fun _ _ => grows.handlers.find?_eq_some) compiled

theorem grows_bind (h : History) (type : EntityType) (m : MetadataType) :
    h.Grows (h.bind type m).2 := by
  unfold bind
  split
  · exact .refl h
  · exact ⟨List.prefix_rfl, List.prefix_append _ _⟩

theorem grows_register (h : History) (x : Handler) : h.Grows (h.register x) :=
  ⟨Registry.prefix_extended _ _, List.prefix_rfl⟩

theorem grows_registerAll (h : History) (es : List HandlerEntry) : h.Grows (h.registerAll es) := by
  induction es generalizing h with
  | nil => exact .refl h
  | cons e es ih => exact (h.grows_register e.handler).trans (ih (h.register e.handler))

theorem grows_serve (catalog : Catalog) (h : History) (q : Request) :
    h.Grows (h.serve catalog q).2 := by
  cases q with
  | bind type m => exact h.grows_bind type m
  | register x => exact h.grows_register x
  | discover modules => exact h.grows_registerAll _
  | ruleSet type => exact .refl h
  | validation type batch => exact .refl h
  | reports type batch => exact .refl h
  | report type entity => exact .refl h
  | counters => exact .refl h

theorem grows_run (catalog : Catalog) (h : History) (requests : List Request) :
    h.Grows (h.run catalog requests).2 := by
  induction requests generalizing h with
  | nil => exact .refl h
  | cons q qs ih => exact (h.grows_serve catalog q).trans (ih (h.serve catalog q).2)

end History

/-! ## 3. Tracking -/

/-- The history is that of the registry and the bindings. -/
structure History.Describes (h : History) (registry : Registry) (bindings : Bindings) : Prop where
  slots : registry.Sound
  handlers : registry.handlers = h.handlers
  bindings : bindings.table.entries = h.bindings

/-- Settings, handlers and bindings of the engine are those of the history. -/
structure Engine.Tracks (g : Engine) (h : History) : Prop where
  settings : g.settings = h.settings
  describes : h.Describes g.registry g.bindings

namespace Engine.Tracks

variable {catalog : Catalog} {g : Engine} {h : History}

theorem bind (tracks : g.Tracks h) (type : EntityType) (m : MetadataType) :
    (g.bind type m).1 = (h.bind type m).1 ∧ (g.bind type m).2.Tracks (h.bind type m).2 := by
  have known : g.bindings.table.get? type = h.bindings.lookup type := by
    rw [FiniteMap.get?, tracks.describes.bindings]
  unfold Engine.bind Bindings.bind History.bind
  rw [known]
  cases bound : h.bindings.lookup type with
  | some existing => exact ⟨rfl, tracks⟩
  | none =>
    rw [bound] at known
    refine ⟨rfl, tracks.settings, { tracks.describes with bindings := ?_ }⟩
    rw [FiniteMap.entries_insert_of_none known, tracks.describes.bindings]

theorem register (tracks : g.Tracks h) (x : Handler) : (g.register x).Tracks (h.register x) where
  settings := tracks.settings
  describes :=
    { slots := tracks.describes.slots.register x
      handlers := by
        rw [Engine.register, Registry.handlers_register, tracks.describes.handlers]
        rfl
      bindings := tracks.describes.bindings }

theorem registerAll (tracks : g.Tracks h) (es : List HandlerEntry) :
    { g with registry := (g.registry.registerAll es).2 }.Tracks (h.registerAll es) := by
  induction es generalizing g h with
  | nil => exact tracks
  | cons e es ih => exact ih (tracks.register e.handler)

theorem discover (tracks : g.Tracks h) (catalog : Catalog) (modules : List String) :
    (g.discover catalog modules).1 = (h.discover catalog modules).1 ∧
      (g.discover catalog modules).2.Tracks (h.discover catalog modules).2 := by
  have next := tracks.registerAll (Registry.found catalog.entries modules)
  refine ⟨?_, next⟩
  have count := g.registry.registerAll_count (Registry.found catalog.entries modules)
  have handlers := next.describes.handlers
  rw [handlers, tracks.describes.handlers] at count
  change _ = _ - h.handlers.length
  rw [count, Nat.add_sub_cancel_left]
  rfl

theorem ofSettings (settings : Settings) :
    (Engine.ofSettings catalog settings).Tracks (.ofSettings catalog settings) := by
  have bare : Engine.Tracks { settings := settings } { settings := settings } :=
    ⟨rfl, Registry.sound_empty, rfl, rfl⟩
  have standard : ∀ on : Bool,
      (if on then (Engine.discover catalog [catalog.standardModule] { settings := settings }).2
        else { settings := settings }).Tracks
      (if on then (History.discover catalog [catalog.standardModule] { settings := settings }).2
        else { settings := settings }) := by
    intro on
    cases on with
    | true => exact (bare.discover catalog _).2
    | false => exact bare
  unfold Engine.ofSettings History.ofSettings
  dsimp only
  split
  · exact standard settings.builtinHandlers
  · exact ((standard settings.builtinHandlers).discover catalog settings.discover).2

/-- Every request leaves the engine where its history says. -/
theorem serve (tracks : g.Tracks h) (catalog : Catalog) (q : Request) :
    (g.serve catalog q).2.Tracks (h.serve catalog q).2 := by
  cases q with
  | bind type m => exact (tracks.bind type m).2
  | register x => exact tracks.register x
  | discover modules => exact (tracks.discover catalog modules).2
  | ruleSet type => exact ⟨tracks.settings, tracks.describes⟩
  | validation type batch => exact ⟨tracks.settings, tracks.describes⟩
  | reports type batch => exact ⟨tracks.settings, tracks.describes⟩
  | report type entity => exact ⟨tracks.settings, tracks.describes⟩
  | counters => exact tracks

theorem run (tracks : g.Tracks h) (catalog : Catalog) (requests : List Request) :
    (g.run catalog requests).2.Tracks (h.run catalog requests).2 := by
  induction requests generalizing g h with
  | nil => exact tracks
  | cons q qs ih => exact ih (tracks.serve catalog q)

end Engine.Tracks

end Rulebook
