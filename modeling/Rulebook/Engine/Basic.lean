/-
Rulebook.Engine.Basic — an engine that compiles rules per entity type and validates batches.

An engine owns its registered handlers, its bindings and its caches.  Entity
types are compiled when they are first needed; a misconfiguration shows up
then, and a request that failed starts over the next time.  Everything that is
declared outside the engine comes with each request as a `Catalog`.
-/
import Rulebook.Compilation
import Rulebook.Engine.Settings

namespace Rulebook

/-- What has been done with an engine so far, in numbers. -/
structure Counters where
  boundTypes : Nat
  handlers : Nat
  compiledTypes : Nat
  compilations : Nat
deriving DecidableEq, Repr

/-- The state of an engine. -/
structure Engine where
  settings : Settings := {}
  registry : Registry := {}
  bindings : Bindings := {}
  caches : Caches := {}

namespace Engine

/-! ## 1. Setting up -/

/-- Registers the handlers of modules; gives the number of new ones. -/
def discover (catalog : Catalog) (modules : List String) (g : Engine) : Nat × Engine :=
  let (count, registry) := g.registry.discover catalog.entries modules
  (count, { g with registry := registry })

/-- An engine with the given settings: the standard handlers are discovered first, the others
after them. -/
def ofSettings (catalog : Catalog) (settings : Settings) : Engine :=
  let bare : Engine := { settings := settings }
  let standard :=
    if settings.builtinHandlers then (bare.discover catalog [catalog.standardModule]).2 else bare
  if settings.discover.isEmpty then standard else (standard.discover catalog settings.discover).2

/-- Binds an entity type to a metadata type. -/
def bind (type : EntityType) (metadata : MetadataType) (g : Engine) :
    Except Misconfiguration Unit × Engine :=
  match g.bindings.bind type metadata with
  | .ok bindings => (.ok (), { g with bindings := bindings })
  | .error e => (.error e, g)

/-- Registers a handler, unless its type is registered. -/
def register (h : Handler) (g : Engine) : Engine :=
  { g with registry := (g.registry.register h).2 }

/-! ## 2. Validating -/

/-- The rule set of an entity type, compiled when it is first asked for. -/
def ruleSet (catalog : Catalog) (type : EntityType) (g : Engine) :
    Except Misconfiguration RuleSet × Engine :=
  let (result, caches) := (ruleSetOf catalog g.registry g.bindings type).run.run g.caches
  (result, { g with caches := caches })

/-- Starts validating a batch.  A misconfiguration is found here; no entity is looked at yet. -/
def validation (catalog : Catalog) (type : EntityType) (batch : List Entity) (g : Engine) :
    Except Misconfiguration Validation × Engine :=
  let (result, g) := g.ruleSet catalog type
  (result.map fun set => ⟨set, g.settings.evaluation, batch⟩, g)

/-- Validates a batch: one report per entity, in order. -/
def reports (catalog : Catalog) (type : EntityType) (batch : List Entity) (g : Engine) :
    Except Misconfiguration (List Report) × Engine :=
  let (result, g) := g.validation catalog type batch
  (result.map Validation.reports, g)

/-- Validates one entity. -/
def report (catalog : Catalog) (type : EntityType) (entity : Entity) (g : Engine) :
    Except Misconfiguration Report × Engine :=
  let (result, g) := g.ruleSet catalog type
  (result.map fun set => set.evaluate g.settings.evaluation entity, g)

/-- The counters of the engine. -/
def counters (g : Engine) : Counters where
  boundTypes := g.bindings.size
  handlers := g.registry.size
  compiledTypes := g.caches.sets.size
  compilations := g.caches.compilations

end Engine
end Rulebook
