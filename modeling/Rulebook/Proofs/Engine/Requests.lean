/-
Rulebook.Proofs.Engine.Requests — runs of an engine.

Everything that can be asked of an engine is a `Request`, and everything that it
says in return a `Reply`; `Engine.serve` routes each request to the operation of
that name.  A run serves requests one after another, so that what every request
preserves, every run preserves by induction on the requests.
-/
import Rulebook.Engine.Basic
import Rulebook.Proofs.Compilation.Steps

namespace Rulebook

/-- What can be asked of an engine. -/
inductive Request
  | bind (type : EntityType) (metadata : MetadataType)
  | register (handler : Handler)
  | discover (modules : List String)
  | ruleSet (type : EntityType)
  /-- Starts a validation, which then yields its reports without the engine. -/
  | validation (type : EntityType) (batch : List Entity)
  | reports (type : EntityType) (batch : List Entity)
  | report (type : EntityType) (entity : Entity)
  | counters

/-- What an engine says to a request. -/
inductive Reply
  | bound (result : Except Misconfiguration Unit)
  | registered
  | discovered (count : Nat)
  | ruleSet (result : Except Misconfiguration RuleSet)
  | validation (result : Except Misconfiguration Validation)
  | reports (result : Except Misconfiguration (List Report))
  | report (result : Except Misconfiguration Report)
  | counters (counters : Counters)

/-- Whether the request could not be granted. -/
def Reply.failed : Reply → Bool
  | .bound result => !result.isOk
  | .registered => false
  | .discovered _ => false
  | .ruleSet result => !result.isOk
  | .validation result => !result.isOk
  | .reports result => !result.isOk
  | .report result => !result.isOk
  | .counters _ => false

namespace Engine

/-- Serves a request. -/
def serve (catalog : Catalog) (g : Engine) : Request → Reply × Engine
  | .bind type metadata => (g.bind type metadata).map .bound id
  | .register h => (.registered, g.register h)
  | .discover modules => (g.discover catalog modules).map .discovered id
  | .ruleSet type => (g.ruleSet catalog type).map .ruleSet id
  | .validation type batch => (g.validation catalog type batch).map .validation id
  | .reports type batch => (g.reports catalog type batch).map .reports id
  | .report type entity => (g.report catalog type entity).map .report id
  | .counters => (.counters g.counters, g)

/-- Binding leaves the caches as they are. -/
theorem caches_bind (g : Engine) (type : EntityType) (m : MetadataType) :
    (g.bind type m).2.caches = g.caches := by
  unfold bind
  split <;> rfl

theorem registry_bind (g : Engine) (type : EntityType) (m : MetadataType) :
    (g.bind type m).2.registry = g.registry := by
  unfold bind
  split <;> rfl

theorem validation_fst (catalog : Catalog) (g : Engine) (type : EntityType) (batch : List Entity) :
    (g.validation catalog type batch).1
      = (g.ruleSet catalog type).1.map fun set => ⟨set, g.settings.evaluation, batch⟩ := rfl

theorem report_fst (catalog : Catalog) (g : Engine) (type : EntityType) (e : Entity) :
    (g.report catalog type e).1
      = (g.ruleSet catalog type).1.map (·.evaluate g.settings.evaluation e) := rfl

/-- The reports on a batch are those that the rule set of its type gives on its entities. -/
theorem reports_fst (catalog : Catalog) (g : Engine) (type : EntityType) (batch : List Entity) :
    (g.reports catalog type batch).1 = (g.ruleSet catalog type).1.map fun set =>
      batch.map (set.evaluate (g.ruleSet catalog type).2.settings.evaluation) := by
  unfold reports validation
  rcases g.ruleSet catalog type with ⟨result, next⟩
  cases result <;> rfl

/-- Serves requests one after another. -/
def run (catalog : Catalog) : Engine → List Request → List Reply × Engine
  | g, [] => ([], g)
  | g, q :: qs =>
    let (reply, next) := g.serve catalog q
    let (replies, last) := next.run catalog qs
    (reply :: replies, last)

end Engine
end Rulebook
