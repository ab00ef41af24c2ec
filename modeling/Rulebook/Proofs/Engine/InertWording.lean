/-
Rulebook.Proofs.Engine.InertWording — severities and messages are reported and
decide nothing.

The severity and the message of a declared rule travel beside its predicate through
compilation and evaluation.  They come out in the failures, and nowhere else: which
definitions compile, with which errors the others fail, and which rules an entity
fails is the same whatever they are.  A message that is absent is replaced by the
text of the handler, which is made of the names and the operand of the rule.

A report does not tell the places of its failures, so that we first say which places
these are.

  §1 Places       — the failures of a report and the places of their rules.
  §2 Rules        — rules that differ in their wording ask for the same.
  §3 Compilations — two definitions that differ in their wording.
-/
import Rulebook.Handler.Matching
import Rulebook.Proofs.Engine.AlikeRuleSets
import Rulebook.Proofs.Engine.EvaluationModes

namespace Rulebook

/-! ## 1. Places -/

/-- The places of the rules that do not hold for an entity, as far as they run in the mode. -/
def RuleSet.failing (s : RuleSet) (mode : Mode) (e : Entity) : List Nat :=
  let places := s.rules.findIdxs fun r => !r.holds e
  match mode with
  | .all => places
  | .firstFailure => places.take 1

/-- What is kept of a list stands at the places that are found. -/
theorem forall₂_findIdxs {α : Type} (p : α → Bool) (xs : List α) :
    List.Forall₂ (fun i x => xs[i]? = some x) (xs.findIdxs p) (xs.filter p) := by
  rw [List.forall₂_iff_get]
  refine ⟨by rw [List.length_findIdxs, List.countP_eq_length_filter], fun i inside kept => ?_⟩
  rw [List.get_eq_getElem, List.get_eq_getElem, List.getElem_filter_eq_getElem_getElem_findIdxs]
  exact List.getElem?_eq_getElem _

/-- The failures of a report are those of the rules at the failing places, one by one. -/
theorem RuleSet.failures_at (s : RuleSet) (mode : Mode) (e : Entity) :
    List.Forall₂ (fun i failure => ∃ r, s.rules[i]? = some r ∧ failure = r.failure)
      (s.failing mode e) (s.evaluate mode e).failures := by
  have all : List.Forall₂ (fun i failure => ∃ r, s.rules[i]? = some r ∧ failure = r.failure)
      (s.failing .all e) (s.evaluate .all e).failures := by
    show List.Forall₂ _ _ (failuresOf .all e s.rules)
    rw [failuresOf_all, List.forall₂_map_right_iff]
    exact (forall₂_findIdxs _ _).imp fun i r here => ⟨r, here, rfl⟩
  cases mode with
  | all => exact all
  | firstFailure =>
    rw [s.evaluate_firstFailure]
    exact List.forall₂_take 1 all

/-- Rules that hold alike fail at the same places. -/
theorem RuleSet.failing_congr {s s' : RuleSet} {e : Entity}
    (same : List.Forall₂ (fun r r' => r'.holds e = r.holds e) s.rules s'.rules) (mode : Mode) :
    s'.failing mode e = s.failing mode e := by
  have places : s'.rules.findIdxs (fun r => !r.holds e)
      = s.rules.findIdxs (fun r => !r.holds e) := by
    have verdicts : s'.rules.map (·.holds e) = s.rules.map (·.holds e) := map_eq_of_forall₂ same
    have found := congrArg (List.findIdxs (!·)) verdicts
    rwa [List.findIdxs_map, List.findIdxs_map] at found
  cases mode with
  | all => exact places
  | firstFailure => exact congrArg (List.take 1) places

/-! ## 2. Rules -/

/-- The rules differ in severity and message at most. -/
def Rule.SameButWording (r r' : Rule) : Prop :=
  r' = { r with severity := r'.severity, message := r'.message }

theorem Rule.SameButWording.asksSame {r r' : Rule} (same : r.SameButWording r') :
    r.AsksSame r' := by
  unfold SameButWording at same
  constructor <;> rw [same]
  exact fun _ => rfl

/-- The failure is that of the rule declared at the place: it has the severity of this rule, and its
message, or else the text of the handler that its operator is routed to. -/
def Scan.Words (s : Scan) (place : Nat) (failure : Failure) : Prop :=
  ∃ name rule property handler, s.definition.declaredRules[place]? = some (name, rule) ∧
    s.shape.property? name = some property ∧ s.resolve rule.operator = some handler ∧
    failure = rule.failure (handler.defaultMessage ⟨s.shape, property, rule⟩)

/-- Each failure of a report is that of the rule declared at its place. -/
theorem Scan.Describes.words {s : Scan} {ends : Build → Except Refusal Predicate → Prop}
    {set : RuleSet} (described : s.Describes ends set) (mode : Mode) (e : Entity) :
    List.Forall₂ s.Words (set.failing mode e) (set.evaluate mode e).failures := by
  refine (set.failures_at mode e).imp ?_
  rintro place failure ⟨r, here, rfl⟩
  obtain ⟨inside', rfl⟩ := List.getElem?_eq_some_iff.mp here
  have inside : place < s.definition.declaredRules.length := described.rules.length_eq ▸ inside'
  obtain ⟨property, handler, predicate, found, routed, -, bound⟩ :=
    described.rules.get inside inside'
  refine ⟨_, _, property, handler, List.getElem?_eq_getElem inside, found, routed, ?_⟩
  rw [List.get_eq_getElem] at bound
  rw [bound]
  rfl

/-! ## 3. Compilations -/

/-- The misconfiguration, reported for another metadata type. -/
def Misconfiguration.about (m : MetadataType) : Misconfiguration → Misconfiguration
  | .unknownProperty entity _ property => .unknownProperty entity m property
  | other => other

/-- The errors of scans of one type differ in the metadata type at most. -/
theorem Scan.errorsMatch_about (catalog catalog' : Catalog) (registry : Registry)
    (type : EntityType) (m m' : MetadataType) (key : Option String) :
    (Scan.of catalog registry type m key).ErrorsMatch (fun err err' => err' = err.about m')
      (Scan.of catalog' registry type m' key) where
  unknown _ := rfl
  unrouted _ _ := rfl
  refused _ _ _ := rfl

/-- Where the caches hold the keys of the definitions, definitions that resemble each other have the
same key in force. -/
theorem Definition.Resembles.keyInForce_eq {catalog catalog' : Catalog} {m m' : MetadataType}
    {rel : Rule → Rule → Prop} {caches caches' : Caches}
    (resembles : (catalog.definition m).Resembles rel (catalog'.definition m'))
    (known : caches.KeysOf catalog) (known' : caches'.KeysOf catalog') :
    caches'.keyInForce m' (catalog'.definition m')
      = caches.keyInForce m (catalog.definition m) := by
  rw [Caches.keyInForce_eq (known m), Caches.keyInForce_eq (known' m'), resembles.entityKey_eq]

/-- Two definitions that differ only in severities and messages, and are left to the built-in
handlers, fail to compile for one shape together, with the same error up to the metadata type, or
compile together.  The rules that an entity then fails stand at the same places, in both modes, and
its key is the same.  Each reported failure is that of the rule declared at its place: it has the
severity of this rule, and its message, or else the text of the handler.  What is asked of the
caches is that they have the same key in force for both definitions, as they do when they are
empty. -/
theorem wording_inert [Patterns] (catalog catalog' : Catalog) (registry : Registry)
    (bindings bindings' : Bindings) (responder responder' : Responder) (caches caches' : Caches)
    (type : EntityType) (m m' : MetadataType) (bound : bindings.table.get? type = some m)
    (bound' : bindings'.table.get? type = some m')
    (shape : catalog'.shape type = catalog.shape type)
    (differ : (catalog.definition m).Resembles Rule.SameButWording (catalog'.definition m'))
    (left : (catalog.definition m).LeftToBuiltin registry.resolve)
    (keys : caches'.keyInForce m' (catalog'.definition m')
      = caches.keyInForce m (catalog.definition m)) :
    let result := ((compile catalog registry bindings responder type).run.run caches).1
    let result' := ((compile catalog' registry bindings' responder' type).run.run caches').1
    let key := caches.keyInForce m (catalog.definition m)
    (∃ err, result = .error err ∧ result' = .error (err.about m')) ∨
      ∃ set set', result = .ok set ∧ result' = .ok set' ∧ ∀ mode e,
        let report := set.evaluate mode e
        let report' := set'.evaluate mode e
        set'.failing mode e = set.failing mode e ∧ report'.key = report.key ∧
          List.Forall₂ (Scan.of catalog registry type m key).Words (set.failing mode e)
            report.failures ∧
          List.Forall₂ (Scan.of catalog' registry type m' key).Words (set.failing mode e)
            report'.failures := by
  intro result result' key
  have parallel := compile_parallel bound bound' left differ (fun _ _ same => same.asksSame) keys
    (Shape.property?_related shape) (fun _ _ => .of_eq)
    (Scan.errorsMatch_about catalog catalog' registry type m m') responder responder'
  rcases parallel.error_or_ok with ⟨err, _, failed, failed', rfl⟩ | ⟨set, set', compiled, compiled',
    -, keyed, ruled⟩
  · exact .inl ⟨err, failed, failed'⟩
  refine .inr ⟨set, set', compiled, compiled', fun mode e => ?_⟩
  obtain ⟨n, held, described⟩ := compilesTo_of_compile compiled
  obtain rfl : m = n := Option.some.inj (bound.symm.trans held)
  obtain ⟨n', held', described'⟩ := compilesTo_of_compile compiled'
  obtain rfl : m' = n' := Option.some.inj (bound'.symm.trans held')
  have places : set'.failing mode e = set.failing mode e :=
    RuleSet.failing_congr (ruled.imp fun r r' same => same.1.predicate e e rfl) mode
  refine ⟨places, ?_, described.words mode e, ?_⟩
  · exact RuleSet.keyOf_congr (optionRel_mono keyed fun p p' same => by rw [same])
  · rw [← places]
    dsimp only at described'
    rw [keys] at described'
    exact described'.words mode e

/-! ### Deposits -/

/-- What is declared of deposits: an amount, which the limit bounds. -/
def depositSteps (severity : Severity) (small large : Option String) : List DefinitionStep :=
  [⟨"amount", [
    .rule { operator := .greaterThan, constant := some (.int 0), severity, message := small },
    .rule { Rule.withSibling .lessThanOrEqual "limit" with severity, message := large }]⟩]

/-- Deposits come with strict terms, and with hints for the same. -/
def deposits : Catalog where
  shape _ := ⟨"Deposit", [⟨"amount", 0, .int, false⟩, ⟨"limit", 1, .int, false⟩]⟩
  definition m :=
    .ofSteps <| if m = ⟨"Terms"⟩ then depositSteps .error none (some "over the limit")
      else depositSteps .warning (some "nothing to deposit") none
  entries := []
  standardModule := "standard"

/-- A deposit that breaks both terms misses both hints, which are worded otherwise. -/
theorem wording_inert_deposits :
    let bindings (m : MetadataType) : Bindings := ⟨FiniteMap.empty.insert ⟨"Deposit"⟩ m⟩
    let result (m : MetadataType) :=
      ((compile deposits orderings (bindings m) Responder.silent ⟨"Deposit"⟩).run.run .empty).1
    let deposit := Entity.ofList [.int 0, .int (-1)]
    ∃ terms hints, result ⟨"Terms"⟩ = .ok terms ∧ result ⟨"Hints"⟩ = .ok hints ∧
      (terms.evaluate .all deposit).failures
        = [⟨"amount must be greater than 0", .error⟩, ⟨"over the limit", .error⟩] ∧
      (hints.evaluate .all deposit).failures
        = [⟨"nothing to deposit", .warning⟩,
          ⟨"amount must be less than or equal to limit", .warning⟩] ∧
      hints.failing .all deposit = [0, 1] ∧ hints.failing .firstFailure deposit = [0] := by
  intro bindings result deposit
  have differ : (deposits.definition ⟨"Terms"⟩).Resembles Rule.SameButWording
      (deposits.definition ⟨"Hints"⟩) :=
    .cons ⟨rfl, rfl, .cons rfl (.cons rfl .nil)⟩ .nil
  have compared := wording_inert deposits deposits orderings (bindings ⟨"Terms"⟩)
    (bindings ⟨"Hints"⟩) .silent .silent .empty .empty ⟨"Deposit"⟩ ⟨"Terms"⟩ ⟨"Hints"⟩ rfl rfl rfl
    differ (leftToBuiltin_orderings _)
    (differ.keyInForce_eq (fun _ _ found => nomatch found) fun _ _ found => nomatch found)
  rcases compared with ⟨err, failed, -⟩ | ⟨terms, hints, compiled, compiled', same⟩
  · cases failed
  refine ⟨terms, hints, compiled, compiled', ?_, ?_, ?_, ?_⟩
  · cases compiled
    decide +kernel
  · cases compiled'
    decide +kernel
  · rw [(same .all deposit).1]
    cases compiled
    decide +kernel
  · rw [(same .firstFailure deposit).1]
    cases compiled
    decide +kernel

end Rulebook
