/-
Rulebook.Proofs.Engine.Batches — validating a batch is validating its entities one
by one, however the reports are consumed.

A validation takes its rule set and its mode along when it is started.  From then
on the engine may be asked for anything, by handlers of other types as well, and
validations may be advanced in any order: each yields the reports of its batch,
one per entity, in order.

  §1 Validations — what a validation yields when it is advanced.
  §2 Sessions    — an engine whose validations are advanced between requests.
  §3 Batches     — lazy, eager and single validation agree.

The lazy part is an induction over the steps of a session.  What it carries is that
a validation is where its own steps have brought it, so that the steps of others do
not show.
-/
import Mathlib.Data.List.ReduceOption
import Rulebook.Proofs.Engine.Invariants

namespace Rulebook

/-! ## 1. Validations -/

/-- The first elements of a list are what it has at the first places, as far as it goes. -/
theorem reduceOption_range {α : Type} (xs : List α) (count : Nat) :
    ((List.range count).map (xs[·]?)).reduceOption = xs.take count := by
  induction count with
  | zero => rfl
  | succ count ih =>
    rw [List.range_succ, List.map_append, List.reduceOption_append, ih, List.take_add_one,
      List.map_singleton]
    cases xs[count]? <;> rfl

namespace Validation

/-- The validation after some reports have been asked for. -/
def advanced (v : Validation) (count : Nat) : Validation :=
  { v with pending := v.pending.drop count }

theorem next_snd (v : Validation) : v.next.2 = v.advanced 1 := by
  obtain ⟨rules, mode, pending⟩ := v
  cases pending <;> rfl

theorem advanced_advanced (v : Validation) (i j : Nat) :
    (v.advanced i).advanced j = v.advanced (i + j) := by
  simp [advanced]

/-- After some reports, the others are left. -/
theorem reports_advanced (v : Validation) (count : Nat) :
    (v.advanced count).reports = v.reports.drop count := by
  simp [advanced, reports]

/-- What comes next is the first report that is left. -/
theorem next_fst (v : Validation) : v.next.1 = v.reports[0]? := by
  obtain ⟨rules, mode, pending⟩ := v
  cases pending <;> rfl

theorem next_advanced_fst (v : Validation) (count : Nat) :
    (v.advanced count).next.1 = v.reports[count]? := by
  rw [next_fst, reports_advanced, List.getElem?_drop, Nat.add_zero]

/-- The announced number of reports is the number of those that are left. -/
theorem remaining_eq (v : Validation) : v.remaining = v.reports.length := by
  simp [remaining, reports]

end Validation

/-! ## 2. Sessions -/

/-- The validation that a reply has started, if it has. -/
def Reply.started? : Reply → Option Validation
  | .validation (.ok v) => some v
  | _ => none

namespace Engine

/-- An engine, and the validations that it has started, in order. -/
structure Session where
  engine : Engine
  started : List Validation := []

namespace Session

/-- What can be done in a session. -/
inductive Step
  /-- The engine is asked for something; what is declared outside of it may change. -/
  | request (catalog : Catalog) (q : Request)
  /-- The validation that was started at this place is asked for its next report. -/
  | next (place : Nat)

/-- What a step says. -/
inductive Answer
  | reply (reply : Reply)
  | next (place : Nat) (report : Option Report)

/-- One step. -/
def step (s : Session) : Step → Answer × Session
  | .request catalog q =>
    let (reply, engine) := s.engine.serve catalog q
    (.reply reply, ⟨engine, s.started ++ reply.started?.toList⟩)
  | .next place =>
    match s.started[place]? with
    | none => (.next place none, s)
    | some v => (.next place v.next.1, { s with started := s.started.set place v.next.2 })

/-- Steps one after another. -/
def run : Session → List Step → List Answer × Session
  | s, [] => ([], s)
  | s, a :: as =>
    let (answer, next) := s.step a
    let (answers, last) := next.run as
    (answer :: answers, last)

/-- What the answer says about the validation at a place. -/
def Answer.about? (place : Nat) : Answer → Option (Option Report)
  | .reply _ => none
  | .next other report => if other = place then some report else none

/-- Whether the step advances the validation at a place. -/
def Step.advances (place : Nat) : Step → Bool
  | .request _ _ => false
  | .next other => other = place

/-- How often the steps advance the validation at a place. -/
def advances (place : Nat) (steps : List Step) : Nat := steps.countP (·.advances place)

variable {s : Session} {place : Nat} {v : Validation}

theorem step_next (here : s.started[place]? = some v) :
    s.step (.next place)
      = (.next place v.next.1, { s with started := s.started.set place v.next.2 }) := by
  simp only [step, here]

theorem step_next_of_none (nowhere : s.started[place]? = none) :
    s.step (.next place) = (.next place none, s) := by
  simp only [step, nowhere]

/-- One step: the validation at a place says what is next if it is the one that is asked, and is
left alone otherwise. -/
theorem step_started (here : s.started[place]? = some v) (a : Step) :
    (s.step a).1.about? place = (if a.advances place then some v.next.1 else none) ∧
      (s.step a).2.started[place]? = some (if a.advances place then v.next.2 else v) := by
  obtain ⟨inside, -⟩ := List.getElem?_eq_some_iff.mp here
  cases a with
  | request catalog q =>
    refine ⟨rfl, ?_⟩
    show (s.started ++ _)[place]? = some v
    rw [List.getElem?_append_left inside, here]
  | next other =>
    by_cases same : other = place
    · subst same
      rw [step_next here]
      simp [Answer.about?, Step.advances, inside]
    · have alone : (Step.next other).advances place = false := decide_eq_false same
      rw [alone]
      cases found : s.started[other]? with
      | none =>
        rw [step_next_of_none found]
        exact ⟨if_neg same, here⟩
      | some w =>
        rw [step_next found]
        refine ⟨if_neg same, ?_⟩
        rw [List.getElem?_set_ne same, here]
        rfl

/-- All steps: the validation at a place has said what its reports are, one after another, and then
that there are no more; and it is where these steps have brought it. -/
theorem run_started (here : s.started[place]? = some v) (steps : List Step) :
    (s.run steps).1.filterMap (·.about? place)
        = (List.range (advances place steps)).map (v.reports[·]?) ∧
      (s.run steps).2.started[place]? = some (v.advanced (advances place steps)) := by
  induction steps generalizing s v with
  | nil => exact ⟨rfl, here⟩
  | cons a steps ih =>
    obtain ⟨said, moved⟩ := step_started here a
    obtain ⟨later, last⟩ := ih moved
    have answers : (s.run (a :: steps)).1 = (s.step a).1 :: ((s.step a).2.run steps).1 := rfl
    have ended : (s.run (a :: steps)).2 = ((s.step a).2.run steps).2 := rfl
    rw [answers, ended, List.filterMap_cons, said]
    cases advancing : a.advances place with
    | false =>
      have count : advances place (a :: steps) = advances place steps := by
        simp [advances, advancing]
      rw [advancing] at later last
      rw [count]
      exact ⟨later, last⟩
    | true =>
      have count : advances place (a :: steps) = advances place steps + 1 := by
        simp [advances, advancing]
      rw [advancing, if_pos rfl, v.next_snd] at later last
      rw [count, last, v.advanced_advanced, Nat.add_comm 1]
      refine ⟨?_, rfl⟩
      rw [List.range_succ_eq_map, List.map_cons, List.map_map]
      simp only [if_pos, later, v.next_fst, v.reports_advanced]
      congr 1
      refine List.map_congr_left fun i _ => ?_
      simp

/-- A validation that is granted takes the next place. -/
theorem started_of_validation {catalog : Catalog} {g : Engine} {type : EntityType}
    {batch : List Entity} (granted : (g.validation catalog type batch).1 = .ok v)
    (others : List Validation) :
    let start := (Session.mk g others).step (.request catalog (.validation type batch))
    start.2.started[others.length]? = some v := by
  show (others ++ (Reply.validation (g.validation catalog type batch).1).started?.toList)[_]? = _
  rw [granted, List.getElem?_append_right (Nat.le_refl _), Nat.sub_self]
  rfl

end Session

/-! ## 3. Batches -/

variable {catalog : Catalog} {g : Engine} {type : EntityType}

/-- The settings stay. -/
theorem invariant_settings (catalog : Catalog) (settings : Settings) :
    Invariant catalog fun g => g.settings = settings where
  binds g type m same := by
    unfold bind
    split <;> exact same
  registers _ _ same := same
  looks _ _ same := same
  reserves _ _ same := same
  stores _ _ _ _ _ same _ _ := same

/-- What an entity has been reported once is what it is reported ever after. -/
theorem report_after {set : RuleSet} (compiled : (g.ruleSet catalog type).1 = .ok set)
    (between : List (Catalog × Request)) (later : Catalog) (e : Entity) :
    (((g.ruleSet catalog type).2.after between).report later type e).1
      = .ok (set.evaluate g.settings.evaluation e) := by
  have cached := Invariant.after (fun catalog => invariant_cached catalog type set)
    (cached_of_ruleSet compiled) between
  have settings : ((g.ruleSet catalog type).2.after between).settings = g.settings :=
    Invariant.after (g := (g.ruleSet catalog type).2)
      (fun catalog => invariant_settings catalog g.settings) rfl between
  rw [report_fst, ruleSet_of_cached cached, settings]
  rfl

end Engine

/-- Validating a batch fails, lazily or eagerly, exactly where there is no rule set, with the same
error, whatever the entities are.  Otherwise there is one report for each entity, in order, the one
that the entity gets when it is validated alone, then or at any later time.  A validation that is
advanced among other validations, and among any requests, yields these reports one by one and then
no more, and announces at every time how many are left. -/
theorem batches_pointwise (catalog : Catalog) (g : Engine) (type : EntityType)
    (batch : List Entity) :
    let asked := (g.ruleSet catalog type).1
    let lazily := (g.validation catalog type batch).1
    let eagerly := (g.reports catalog type batch).1
    (∀ e, (lazily = .error e ↔ asked = .error e) ∧ (eagerly = .error e ↔ asked = .error e)) ∧
      ∀ results, eagerly = .ok results →
        results.length = batch.length ∧
          (∀ (i : Nat) (e : Entity), batch[i]? = some e → ∃ report, results[i]? = some report ∧
            (g.report catalog type e).1 = .ok report ∧
            ∀ between later,
              (((g.reports catalog type batch).2.after between).report later type e).1
                = .ok report) ∧
          ∀ others steps,
            let place := List.length others
            let k := Engine.Session.advances place steps
            let start :=
              (Engine.Session.mk g others).step (.request catalog (.validation type batch))
            let yielded := (start.2.run steps).1.filterMap (·.about? place)
            yielded = (List.range k).map (results[·]?) ∧
              yielded.reduceOption = results.take k ∧
              ∃ v, (start.2.run steps).2.started[place]? = some v ∧
                v.remaining = results.length - k ∧ v.next.1 = results[k]? ∧
                v.reports = results.drop k := by
  intro asked lazily eagerly
  have lazily_eq : lazily = asked.map fun set => ⟨set, g.settings.evaluation, batch⟩ :=
    Engine.validation_fst catalog g type batch
  have eagerly_eq : eagerly = asked.map fun set =>
      batch.map (set.evaluate g.settings.evaluation) := Engine.reports_fst catalog g type batch
  cases compiled : asked with
  | error e =>
    rw [compiled] at lazily_eq eagerly_eq
    rw [lazily_eq, eagerly_eq]
    refine ⟨fun e' => ?_, fun results succeeded => nomatch succeeded⟩
    simp [Except.map]
  | ok set =>
    rw [compiled] at lazily_eq eagerly_eq
    refine ⟨fun e => ?_, ?_⟩
    · rw [lazily_eq, eagerly_eq]
      simp [Except.map]
    intro results succeeded
    have reports : results = batch.map (set.evaluate g.settings.evaluation) :=
      Except.ok.inj (succeeded.symm.trans eagerly_eq)
    refine ⟨?_, ?_, ?_⟩
    · rw [reports, List.length_map]
    · intro i e at_place
      refine ⟨set.evaluate g.settings.evaluation e, ?_, ?_, ?_⟩
      · rw [reports, List.getElem?_map, at_place]
        rfl
      · rw [Engine.report_fst]
        show asked.map _ = _
        rw [compiled]
        rfl
      · intro between later
        exact Engine.report_after compiled between later e
    · intro others steps place k start yielded
      have first := Engine.Session.started_of_validation lazily_eq others
      obtain ⟨said, last⟩ := Engine.Session.run_started first steps
      have results_eq : Validation.reports ⟨set, g.settings.evaluation, batch⟩ = results :=
        reports.symm
      rw [results_eq] at said
      refine ⟨said, ?_, _, last, ?_, ?_, ?_⟩
      · exact (congrArg List.reduceOption said).trans (reduceOption_range results k)
      · rw [Validation.remaining_eq, Validation.reports_advanced, results_eq, List.length_drop]
      · rw [Validation.next_advanced_fst, results_eq]
      · rw [Validation.reports_advanced, results_eq]

/-! ### Rooms -/

/-- Rooms have a bed. -/
def rooms : Catalog where
  shape _ := ⟨"Room", [⟨"number", 0, .int, false⟩, ⟨"beds", 1, .int, false⟩]⟩
  definition _ := .ofSteps
    [⟨"number", [.key]⟩,
      ⟨"beds", [.rule { operator := .greaterThan, constant := some (.int 0) }]⟩]
  entries := []
  standardModule := "standard"

/-- Two rooms with beds, and one without between them. -/
def roomBatch : List Entity :=
  [.ofList [.int 101, .int 2], .ofList [.int 102, .int 0], .ofList [.int 103, .int 1]]

/-- The reports of these rooms. -/
def roomReports : List Report :=
  [⟨some (.int 101), []⟩, ⟨some (.int 102), [⟨"beds must be greater than 0", .error⟩]⟩,
    ⟨some (.int 103), []⟩]

/-- The failure of the second room is reported in its place, be it in the batch, alone, or when the
batch is advanced between other requests. -/
theorem batches_pointwise_rooms :
    let g := ((Engine.ofSettings rooms { builtinHandlers := false }).run rooms
      [.register (.ordering "Ordering"), .bind ⟨"Room"⟩ ⟨"RoomRules"⟩]).2
    let start := (Engine.Session.mk g []).step (.request rooms (.validation ⟨"Room"⟩ roomBatch))
    let steps : List Engine.Session.Step :=
      [.next 0, .request rooms (.bind ⟨"Suite"⟩ ⟨"SuiteRules"⟩), .next 0,
        .request rooms (.validation ⟨"Room"⟩ []), .next 1, .next 0, .next 0]
    (g.reports rooms ⟨"Room"⟩ roomBatch).1 = .ok roomReports ∧
      (∀ (i : Nat) e, roomBatch[i]? = some e → ∃ report, roomReports[i]? = some report ∧
        (g.report rooms ⟨"Room"⟩ e).1 = .ok report) ∧
      (start.2.run steps).1.filterMap (·.about? 0)
        = [roomReports[0]?, roomReports[1]?, roomReports[2]?, none] := by
  intro g start steps
  have succeeded : (g.reports rooms ⟨"Room"⟩ roomBatch).1 = .ok roomReports := by
    decide +kernel
  obtain ⟨-, pointwise⟩ := batches_pointwise rooms g ⟨"Room"⟩ roomBatch
  obtain ⟨-, alone, lazily⟩ := pointwise roomReports succeeded
  refine ⟨succeeded, fun i e at_place => ?_, ?_⟩
  · obtain ⟨report, reported, same, -⟩ := alone i e at_place
    exact ⟨report, reported, same⟩
  · exact (lazily [] steps).1

end Rulebook
