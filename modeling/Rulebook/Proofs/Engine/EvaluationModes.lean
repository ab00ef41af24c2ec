/-
Rulebook.Proofs.Engine.EvaluationModes — stopping at the first failure shortens
reports and changes nothing else.

In both modes the rules of a set run in order; in the mode `firstFailure` they stop
running once one has failed.  What is reported then is the report of the mode `all`,
cut short after its first failure, so the same entities are valid.  An engine looks
at its mode only when it evaluates: two engines that differ in the mode alone go
through the same states, and one says what the other says, cut short.

  §1 Rule sets — the reports of one rule set in both modes.
  §2 Engines   — one request, served in both modes.
  §3 Sessions  — runs of both engines, lazy validations included.
-/
import Rulebook.Proofs.Engine.Batches
import Rulebook.Proofs.Engine.CompiledRules

namespace Rulebook

/-! ## 1. Rule sets -/

/-- The report up to its first failure. -/
def Report.cutShort (r : Report) : Report := { r with failures := r.failures.take 1 }

@[simp] theorem Report.isValid_cutShort (r : Report) : r.cutShort.isValid = r.isValid := by
  obtain ⟨key, failures⟩ := r
  cases failures <;> rfl

/-- Stopping at the first failure reports the first of all failures, if there are any. -/
theorem failuresOf_firstFailure (e : Entity) (rules : List BoundRule) :
    failuresOf .firstFailure e rules = (failuresOf .all e rules).take 1 := by
  induction rules with
  | nil => rfl
  | cons r rules ih =>
    unfold failuresOf
    cases holds : r.holds e with
    | true => simp [ih]
    | false => simp

theorem RuleSet.evaluate_firstFailure (s : RuleSet) (e : Entity) :
    s.evaluate .firstFailure e = (s.evaluate .all e).cutShort := by
  simp [evaluate, Report.cutShort, failuresOf_firstFailure]

/-- An entity is valid if all rules hold for it. -/
theorem RuleSet.isValid_evaluate_all (s : RuleSet) (e : Entity) :
    (s.evaluate .all e).isValid = true ↔ ∀ r ∈ s.rules, r.holds e = true := by
  simp [evaluate, Report.isValid, failuresOf_all]

/-! ## 2. Engines -/

/-- The validation, in the mode `firstFailure`. -/
def Validation.cutShort (v : Validation) : Validation := { v with mode := .firstFailure }

/-- The reply, with every report cut short. -/
def Reply.cutShort : Reply → Reply
  | .validation result => .validation (result.map Validation.cutShort)
  | .reports result => .reports (result.map (List.map Report.cutShort))
  | .report result => .report (result.map Report.cutShort)
  | reply => reply

namespace Engine

/-- The engine, in the mode `firstFailure`. -/
def cutShort (g : Engine) : Engine :=
  { g with settings := g.settings.withEvaluation .firstFailure }

variable {catalog : Catalog} {g : Engine}

/-- What an engine discovers at the start does not depend on the mode. -/
theorem ofSettings_firstFailure (catalog : Catalog) (settings : Settings) :
    Engine.ofSettings catalog (settings.withEvaluation .firstFailure)
      = (Engine.ofSettings catalog (settings.withEvaluation .all)).cutShort := by
  obtain ⟨builtinHandlers, modules, mode⟩ := settings
  cases builtinHandlers with
  | true => cases modules <;> rfl
  | false => cases modules <;> rfl

/-- Which rule set a type has does not depend on the mode. -/
theorem ruleSet_cutShort (g : Engine) (type : EntityType) :
    g.cutShort.ruleSet catalog type
      = ((g.ruleSet catalog type).1, (g.ruleSet catalog type).2.cutShort) := rfl

theorem validation_cutShort (g : Engine) (type : EntityType) (batch : List Entity) :
    (g.cutShort.validation catalog type batch).1
      = (g.validation catalog type batch).1.map Validation.cutShort := by
  simp only [validation_fst, ruleSet_cutShort]
  cases (g.ruleSet catalog type).1 <;> rfl

/-- With all failures reported, stopping at the first one cuts every report short. -/
theorem report_cutShort (full : g.settings.evaluation = .all) (type : EntityType) (e : Entity) :
    (g.cutShort.report catalog type e).1
      = (g.report catalog type e).1.map Report.cutShort := by
  simp only [report_fst, ruleSet_cutShort, full]
  cases (g.ruleSet catalog type).1 with
  | error _ => rfl
  | ok set => exact congrArg Except.ok (set.evaluate_firstFailure e)

theorem reports_cutShort (full : g.settings.evaluation = .all) (type : EntityType)
    (batch : List Entity) :
    (g.cutShort.reports catalog type batch).1
      = (g.reports catalog type batch).1.map (List.map Report.cutShort) := by
  have evaluated (set : RuleSet) :
      set.evaluate .firstFailure = Report.cutShort ∘ set.evaluate .all :=
    funext set.evaluate_firstFailure
  have kept : (g.ruleSet catalog type).2.settings.evaluation = .all := full
  simp only [reports_fst, ruleSet_cutShort, kept]
  cases (g.ruleSet catalog type).1 with
  | error _ => rfl
  | ok set => simp [Except.map, cutShort, Settings.withEvaluation, evaluated]

/-- One request: the engine says the same cut short, and ends up in the same state. -/
theorem serve_cutShort (catalog : Catalog) (full : g.settings.evaluation = .all) (q : Request) :
    g.cutShort.serve catalog q
      = ((g.serve catalog q).1.cutShort, (g.serve catalog q).2.cutShort) := by
  cases q with
  | bind type m =>
    unfold serve bind
    cases bound : g.bindings.bind type m <;> simp [cutShort, Reply.cutShort, bound]
  | register h => rfl
  | discover modules => rfl
  | ruleSet type => rfl
  | validation type batch =>
    exact Prod.ext (congrArg Reply.validation (g.validation_cutShort type batch)) rfl
  | reports type batch =>
    exact Prod.ext (congrArg Reply.reports (reports_cutShort full type batch)) rfl
  | report type e => exact Prod.ext (congrArg Reply.report (report_cutShort full type e)) rfl
  | counters => rfl

/-- What an engine has started in the mode `all` goes on in it. -/
theorem mode_of_started (full : g.settings.evaluation = .all) {q : Request} {v : Validation}
    (started : (g.serve catalog q).1.started? = some v) : v.mode = .all := by
  cases q with
  | validation type batch =>
    change (Reply.validation (g.validation catalog type batch).1).started? = some v at started
    rw [validation_fst, full] at started
    cases answered : (g.ruleSet catalog type).1 with
    | error _ => rw [answered] at started; cases started
    | ok set => rw [answered] at started; cases started; rfl
  | _ => cases started

/-! ## 3. Sessions -/

namespace Session

/-- The answer, with every report cut short. -/
def Answer.cutShort : Answer → Answer
  | .reply said => .reply said.cutShort
  | .next place report => .next place (report.map Report.cutShort)

/-- The session, in the mode `firstFailure`. -/
def cutShort (s : Session) : Session := ⟨s.engine.cutShort, s.started.map Validation.cutShort⟩

/-- Every rule runs, in what has been started too. -/
structure InFull (s : Session) : Prop where
  engine : s.engine.settings.evaluation = .all
  started : ∀ v ∈ s.started, v.mode = .all

theorem next_cutShort {v : Validation} (full : v.mode = .all) :
    v.cutShort.next = (v.next.1.map Report.cutShort, v.next.2.cutShort) := by
  obtain ⟨rules, mode, pending⟩ := v
  obtain rfl : mode = .all := full
  cases pending with
  | nil => rfl
  | cons e rest => exact Prod.ext (congrArg some (rules.evaluate_firstFailure e)) rfl

theorem started_cutShort (reply : Reply) :
    reply.cutShort.started?.toList = reply.started?.toList.map Validation.cutShort := by
  cases reply with
  | validation result => cases result <;> rfl
  | _ => rfl

variable {s : Session}

theorem InFull.step (full : s.InFull) (a : Step) : (s.step a).2.InFull := by
  cases a with
  | request catalog q =>
    refine ⟨?_, ?_⟩
    · have kept := (invariant_settings catalog s.engine.settings).serve rfl q
      exact (congrArg Settings.evaluation kept).trans full.engine
    · intro v mem
      rcases List.mem_append.mp mem with old | new
      · exact full.started v old
      · exact mode_of_started full.engine (Option.mem_toList.mp new)
  | next place =>
    cases found : s.started[place]? with
    | none => rwa [step_next_of_none found]
    | some w =>
      rw [step_next found]
      refine ⟨full.engine, fun v mem => ?_⟩
      rcases List.mem_or_eq_of_mem_set mem with old | rfl
      · exact full.started v old
      · rw [w.next_snd]
        exact full.started w (List.mem_of_getElem? found)

/-- One step: the same is said, cut short, and the sessions stay side by side. -/
theorem step_cutShort (full : s.InFull) (a : Step) :
    s.cutShort.step a = ((s.step a).1.cutShort, (s.step a).2.cutShort) := by
  cases a with
  | request catalog q =>
    have served := serve_cutShort catalog full.engine q
    simp [Session.step, cutShort, served, Answer.cutShort, started_cutShort]
  | next place =>
    cases found : s.started[place]? with
    | none =>
      have nowhere : s.cutShort.started[place]? = none := by simp [cutShort, found]
      rw [step_next_of_none found, step_next_of_none nowhere]
      rfl
    | some v =>
      have here : s.cutShort.started[place]? = some v.cutShort := by simp [cutShort, found]
      have inFull : v.mode = .all := full.started v (List.mem_of_getElem? found)
      rw [step_next found, step_next here, next_cutShort inFull]
      simp [cutShort, Answer.cutShort, List.map_set]

/-- All steps. -/
theorem run_cutShort (full : s.InFull) (steps : List Step) :
    s.cutShort.run steps = ((s.run steps).1.map Answer.cutShort, (s.run steps).2.cutShort) ∧
      (s.run steps).2.InFull := by
  induction steps generalizing s with
  | nil => exact ⟨rfl, full⟩
  | cons a steps ih =>
    obtain ⟨later, kept⟩ := ih (full.step a)
    refine ⟨?_, kept⟩
    simp only [run, step_cutShort full a, later, List.map_cons]

end Session

end Engine

/-- For every rule set and entity, the failures in the mode `all` are those of the rules that do not
hold, one for each, in order; in the mode `firstFailure` they are the first of these, if there are
any.  The key is the same and so is the validity, which means that every rule holds.  Two engines
that are set up alike except for the mode, and go through the same steps, stay alike except for the
mode: one says what the other says, with every report cut short.  So they accept the same entities
of every batch. -/
theorem first_failure_cuts_short :
    (∀ (set : RuleSet) (e : Entity),
      let full := set.evaluate .all e
      let short := set.evaluate .firstFailure e
      full.failures = (set.rules.filter fun r => !r.predicate e).map
          (fun r => ⟨r.message, r.severity⟩) ∧
        short.failures = full.failures.take 1 ∧
        short.key = full.key ∧ short.isValid = full.isValid ∧
        (full.isValid = true ↔ ∀ r ∈ set.rules, r.predicate e = true)) ∧
      ∀ (catalog : Catalog) (settings : Settings) (steps : List Engine.Session.Step),
        let start (mode : Mode) : Engine.Session :=
          ⟨Engine.ofSettings catalog (settings.withEvaluation mode), []⟩
        let full := (start .all).run steps
        let short := (start .firstFailure).run steps
        short.1 = full.1.map Engine.Session.Answer.cutShort ∧
          short.2 = full.2.cutShort ∧
          ∀ now type batch,
            (short.2.engine.reports now type batch).1.map (List.map Report.isValid)
              = (full.2.engine.reports now type batch).1.map (List.map Report.isValid) := by
  refine ⟨fun set e => ?_, fun catalog settings steps => ?_⟩
  · intro full short
    have cut : short = full.cutShort := set.evaluate_firstFailure e
    rw [cut]
    exact ⟨failuresOf_all e set.rules, rfl, rfl, full.isValid_cutShort, set.isValid_evaluate_all e⟩
  · intro start full short
    have inFull : (start .all).InFull :=
      ⟨congrArg Settings.evaluation
        ((Engine.invariant_settings catalog (settings.withEvaluation .all)).ofSettings rfl),
        fun v none => absurd none List.not_mem_nil⟩
    have started : start .firstFailure = (start .all).cutShort := by
      simp only [start, Engine.ofSettings_firstFailure]
      rfl
    obtain ⟨said, kept⟩ := Engine.Session.run_cutShort inFull steps
    rw [← started] at said
    refine ⟨congrArg Prod.fst said, congrArg Prod.snd said, fun now type batch => ?_⟩
    have ended : short.2.engine = full.2.engine.cutShort :=
      congrArg (·.2.engine) said
    rw [ended, Engine.reports_cutShort kept.engine]
    cases (full.2.engine.reports now type batch).1 with
    | error _ => rfl
    | ok reports => simp [Except.map]

end Rulebook
