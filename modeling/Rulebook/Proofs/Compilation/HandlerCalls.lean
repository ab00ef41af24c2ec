/-
Rulebook.Proofs.Compilation.HandlerCalls — the calls that compilations make of handlers.

A compilation ends in a rule set or an error, and what it has asked of which handlers
on the way does not show there.  Compilations are written for any workspace that has the
caches in it.  Here they run where notes are kept: every call of a handler is entered
with its target and with what it has returned, in the compilation itself and in all those
that handlers have asked for inside.  Nothing is read from the notes, so that what holds
of them holds of the calls of an engine, which keeps none.

  §1 Calls       — which sequences of calls are lawful.
  §2 Logs        — workspaces that keep a log.
  §3 Keeping log — `Logs registry known good x y`; one lemma per way of combining steps.
  §4 The steps   — with a log they end as they do without, and their logs are lawful.
-/
import Rulebook.Proofs.Compilation.Nesting

namespace Rulebook

/-! ## 1. Calls -/

namespace HandlerCall

def handler : HandlerCall → Handler
  | .build h _ _ => h
  | .defaultMessage h _ _ => h

def target : HandlerCall → Target
  | .build _ t _ => t
  | .defaultMessage _ t _ => t

/-- Calls as they may follow each other, the latest first: builds of handlers that operators are
routed to, and default messages of handlers that have built a predicate for the same target. -/
inductive Lawful (registry : Registry) : List HandlerCall → Prop
  | nil : Lawful registry []
  | build {calls : List HandlerCall} {h : Handler} {t : Target} {result : Except Refusal Predicate}
      (before : Lawful registry calls) (routed : registry.resolve t.rule.operator = some h)
      (ended : (h.build t).CanEnd result) : Lawful registry (.build h t result :: calls)
  | defaultMessage {calls : List HandlerCall} {h : Handler} {t : Target} {p : Predicate}
      (before : Lawful registry calls) (built : .build h t (.ok p) ∈ calls) :
      Lawful registry (.defaultMessage h t (h.defaultMessage t) :: calls)

namespace Lawful

variable {registry : Registry} {calls earlier later : List HandlerCall} {h : Handler} {t : Target}

/-- What was called before is lawful by itself. -/
theorem of_append (lawful : Lawful registry (later ++ earlier)) : Lawful registry earlier := by
  induction later with
  | nil => exact lawful
  | cons call later ih =>
    cases lawful with
    | build before _ _ => exact ih before
    | defaultMessage before _ => exact ih before

/-- A default message comes after a build that has succeeded. -/
theorem built_before {text : String}
    (lawful : Lawful registry (later ++ .defaultMessage h t text :: earlier)) :
    text = h.defaultMessage t ∧ ∃ p, .build h t (.ok p) ∈ earlier := by
  cases lawful.of_append with
  | defaultMessage _ built => exact ⟨rfl, _, built⟩

/-- A build was one of the handler that the operator is routed to, and it can end so. -/
theorem routed_of_build {result : Except Refusal Predicate} (lawful : Lawful registry calls)
    (mem : .build h t result ∈ calls) :
    registry.resolve t.rule.operator = some h ∧ (h.build t).CanEnd result := by
  obtain ⟨later, earlier, rfl⟩ := List.append_of_mem mem
  cases lawful.of_append with
  | build _ routed ended => exact ⟨routed, ended⟩

/-- A default message was that of the handler, which has built a predicate for the target. -/
theorem build_of_defaultMessage {text : String} (lawful : Lawful registry calls)
    (mem : .defaultMessage h t text ∈ calls) :
    text = h.defaultMessage t ∧ ∃ p, .build h t (.ok p) ∈ calls := by
  obtain ⟨later, earlier, rfl⟩ := List.append_of_mem mem
  obtain ⟨text, p, built⟩ := lawful.built_before
  exact ⟨text, p, List.mem_append_right later (List.mem_cons_of_mem _ built)⟩

/-- All calls are of handlers that the operators are routed to. -/
theorem routed (lawful : Lawful registry calls) {call : HandlerCall} (mem : call ∈ calls) :
    registry.resolve call.target.rule.operator = some call.handler := by
  cases call with
  | build h t result => exact (lawful.routed_of_build mem).1
  | defaultMessage h t text =>
    obtain ⟨-, p, built⟩ := lawful.build_of_defaultMessage mem
    exact (lawful.routed_of_build built).1

end Lawful

end HandlerCall

/-! ## 2. Logs -/

/-- The caches, and the calls of handlers so far, the latest first. -/
structure CallLog where
  caches : Caches
  calls : List HandlerCall

/-- Notes are entered in the log. -/
instance : Workspace CallLog where
  caches := CallLog.caches
  withCaches c log := { log with caches := c }
  noted call log := { log with calls := call :: log.calls }

namespace CallLog

/-- Answers for which no handler is called. -/
def quietResponder (responder : Responder) : ResponderIn CallLog := fun type log =>
  (((responder type).run log.caches).1, { log with caches := ((responder type).run log.caches).2 })

/-! ## 3. Keeping log -/

section Logs

variable {α β : Type} {registry : Registry} {known : List HandlerCall}

/-- From logs with the known calls, the steps `x` end as the steps `y` do without a log, leave the
same caches, add lawful calls, and end in a result that is `good` for the calls so far. -/
def StateLogs (registry : Registry) (known : List HandlerCall)
    (good : List HandlerCall → α → Prop) (x : StateM CallLog α) (y : StateM Caches α) : Prop :=
  ∀ log, known ⊆ log.calls → HandlerCall.Lawful registry log.calls →
    let after := (x.run log).2
    ((x.run log).1, after.caches) = y.run log.caches ∧ log.calls ⊆ after.calls ∧
      HandlerCall.Lawful registry after.calls ∧ good after.calls (x.run log).1

/-- The same of steps that may fail; an error is as good as any. -/
def Logs (registry : Registry) (known : List HandlerCall) (good : List HandlerCall → α → Prop)
    (x : CompilingIn CallLog α)
    (y : Compiling α) : Prop :=
  StateLogs registry known (fun calls outcome => ∀ a, outcome = .ok a → good calls a) x.run y.run

theorem stateLogs_pure {good : List HandlerCall → α → Prop} {a : α}
    (h : ∀ calls, known ⊆ calls → good calls a) :
    StateLogs registry known good (pure a) (pure a) :=
  fun log has lawful => ⟨rfl, List.Subset.refl _, lawful, h log.calls has⟩

theorem StateLogs.bind {good : List HandlerCall → α → Prop} {best : List HandlerCall → β → Prop}
    {x : StateM CallLog α} {y : StateM Caches α} {f : α → StateM CallLog β}
    {g : α → StateM Caches β} (hx : StateLogs registry known good x y)
    (hf : ∀ a calls, known ⊆ calls → good calls a → StateLogs registry calls best (f a) (g a)) :
    StateLogs registry known best (x >>= f) (y >>= g) := by
  intro log has lawful
  obtain ⟨same, grown, kept, result⟩ := hx log has lawful
  obtain ⟨same', grown', kept', result'⟩ :=
    hf _ _ (List.Subset.trans has grown) result (x.run log).2 (List.Subset.refl _) kept
  refine ⟨?_, List.Subset.trans grown grown', kept', result'⟩
  show _ = (g (y.run log.caches).1).run (y.run log.caches).2
  rw [← same]
  exact same'

theorem logs_pure {good : List HandlerCall → α → Prop} {a : α}
    (h : ∀ calls, known ⊆ calls → good calls a) : Logs registry known good (pure a) (pure a) :=
  stateLogs_pure fun calls has _ same => Except.ok.inj same ▸ h calls has

theorem logs_throw {good : List HandlerCall → α → Prop} (e : Misconfiguration) :
    Logs registry known good (throw e) (throw e) :=
  stateLogs_pure fun _ _ _ same => nomatch same

theorem Logs.bind {good : List HandlerCall → α → Prop} {best : List HandlerCall → β → Prop}
    {x : CompilingIn CallLog α} {y : Compiling α} {f : α → CompilingIn CallLog β}
    {g : α → Compiling β}
    (hx : Logs registry known good x y)
    (hf : ∀ a calls, known ⊆ calls → good calls a → Logs registry calls best (f a) (g a)) :
    Logs registry known best (x >>= f) (y >>= g) := by
  unfold Logs
  rw [ExceptT.run_bind, ExceptT.run_bind]
  refine StateLogs.bind hx fun outcome calls has result => ?_
  cases outcome with
  | error e => exact stateLogs_pure fun _ _ _ same => nomatch same
  | ok a => exact hf a calls has (result a rfl)

theorem Logs.imp {good better : List HandlerCall → α → Prop} {x : CompilingIn CallLog α}
    {y : Compiling α} (h : Logs registry known good x y)
    (weaker : ∀ calls a, good calls a → better calls a) : Logs registry known better x y := by
  intro log has lawful
  obtain ⟨same, grown, kept, result⟩ := h log has lawful
  exact ⟨same, grown, kept, fun a ended => weaker _ a (result a ended)⟩

/-- Steps that cannot fail pass on what they give. -/
theorem logs_lift_bind {good : List HandlerCall → α → Prop} {best : List HandlerCall → β → Prop}
    {x : StateM CallLog α} {y : StateM Caches α} {f : α → CompilingIn CallLog β}
    {g : α → Compiling β}
    (hx : StateLogs registry known good x y)
    (hf : ∀ a calls, known ⊆ calls → good calls a → Logs registry calls best (f a) (g a)) :
    Logs registry known best (liftM x >>= f) (liftM y >>= g) :=
  StateLogs.bind hx hf

/-- Steps for each element of a list, in order, up to the first failure. -/
theorem Logs.mapM {good : List HandlerCall → α → β → Prop} {f : α → CompilingIn CallLog β}
    {g : α → Compiling β}
    (mono : ∀ a b calls more, calls ⊆ more → good calls a b → good more a b) (xs : List α)
    (h : ∀ a ∈ xs, ∀ known, Logs registry known (good · a) (f a) (g a)) :
    Logs registry known (fun calls => List.Forall₂ (good calls) xs) (xs.mapM f) (xs.mapM g) := by
  induction xs generalizing known with
  | nil => exact logs_pure fun _ _ => .nil
  | cons a xs ih =>
    rw [List.mapM_cons, List.mapM_cons]
    refine (h a List.mem_cons_self known).bind fun b first _ done => ?_
    refine (ih fun a' mem => h a' (List.mem_cons_of_mem a mem)).bind fun bs second more rest => ?_
    exact logs_pure fun calls last => .cons (mono a b _ _ (List.Subset.trans more last) done)
      (rest.imp fun _ _ => mono _ _ _ _ last)

end Logs

end CallLog

/-! ## 4. The steps -/

/-- The log accounts for a bound rule: the handler of its operator has built the predicate, and has
worded the message if the declared rule has none of its own. -/
def HandlerCall.Accounts (registry : Registry) (calls : List HandlerCall) (t : Target)
    (bound : BoundRule) : Prop :=
  ∃ h, registry.resolve t.rule.operator = some h ∧ .build h t (.ok bound.predicate) ∈ calls ∧
    (∀ text, t.rule.message = some text → bound.message = text) ∧
    (t.rule.message = none → .defaultMessage h t bound.message ∈ calls)

/-- The same of a declared rule, whose property is in the shape. -/
def HandlerCall.AccountsFor (registry : Registry) (shape : Shape) (calls : List HandlerCall)
    (declared : String × Rule) (bound : BoundRule) : Prop :=
  ∃ property, shape.property? declared.1 = some property ∧
    Accounts registry calls ⟨shape, property, declared.2⟩ bound

theorem HandlerCall.Accounts.mono {registry : Registry} {calls more : List HandlerCall} {t : Target}
    {bound : BoundRule} (accounts : Accounts registry calls t bound) (grown : calls ⊆ more) :
    Accounts registry more t bound := by
  obtain ⟨h, routed, built, own, worded⟩ := accounts
  exact ⟨h, routed, grown built, own, fun none => grown (worded none)⟩

theorem HandlerCall.AccountsFor.mono {registry : Registry} {shape : Shape}
    {calls more : List HandlerCall} (grown : calls ⊆ more) {declared : String × Rule}
    {bound : BoundRule} (accounts : AccountsFor registry shape calls declared bound) :
    AccountsFor registry shape more declared bound := by
  obtain ⟨property, found, accounts⟩ := accounts
  exact ⟨property, found, accounts.mono grown⟩

namespace CallLog

open HandlerCall

section Steps

variable {registry : Registry} {known : List HandlerCall} {responder : ResponderIn CallLog}
  {plain : Responder}

/-- Requests are answered alike with a log and without. -/
def Answers (registry : Registry) (responder : ResponderIn CallLog) (plain : Responder) : Prop :=
  ∀ type known, StateLogs registry known (fun _ _ => True) (responder type) (plain type)

theorem answers_quietResponder (registry : Registry) (plain : Responder) :
    Answers registry (quietResponder plain) plain :=
  fun _ _ _ _ lawful => ⟨rfl, List.Subset.refl _, lawful, trivial⟩

/-- Steps that work on the caches call no handler. -/
theorem logs_onCaches {α : Type} (work : Caches → α × Caches) :
    Logs registry known (fun _ _ => True) (onCaches work) (onCaches work) :=
  fun _ _ lawful => ⟨rfl, List.Subset.refl _, lawful, fun _ _ => trivial⟩

theorem logs_theCaches : Logs registry known (fun _ _ => True) theCaches theCaches :=
  fun _ _ lawful => ⟨rfl, List.Subset.refl _, lawful, fun _ _ => trivial⟩

theorem logs_requireProperty (type : EntityType) (metadata : MetadataType) (shape : Shape)
    (name : String) :
    Logs registry known (fun _ p => shape.property? name = some p)
      (requireProperty type metadata shape name) (requireProperty type metadata shape name) := by
  unfold requireProperty
  cases shape.property? name with
  | none => exact logs_throw _
  | some p => exact logs_pure fun _ _ => rfl

theorem stateLogs_run (answers : Answers registry responder plain) (b : Build) :
    StateLogs registry known (fun _ _ => True) (b.run responder) (b.run plain) := by
  induction b generalizing known with
  | done result => exact stateLogs_pure fun _ _ => trivial
  | ask type next ih => exact (answers type known).bind fun answer _ _ _ => ih answer

/-- Builds are logged when they have ended. -/
theorem stateLogs_callBuild (answers : Answers registry responder plain) {h : Handler} {t : Target}
    (routed : registry.resolve t.rule.operator = some h) :
    StateLogs registry known (fun calls result => .build h t result ∈ calls)
      (callBuild responder h t) (callBuild plain h t) := by
  intro log has lawful
  -- calls that were made to answer the handler's requests have been entered before its own
  obtain ⟨same, grown, kept, -⟩ := stateLogs_run answers (h.build t) log has lawful
  refine ⟨same, fun call mem => List.mem_cons_of_mem _ (grown mem), .build kept routed ?_,
    List.mem_cons_self⟩
  exact ⟨plain, log.caches, (congrArg Prod.fst same).symm⟩

/-- Default messages are logged, and there is none where a rule has its own text. -/
theorem stateLogs_wording {h : Handler} {t : Target} {p : Predicate}
    (built : .build h t (.ok p) ∈ known) :
    StateLogs registry known
      (fun calls text => (∀ own, t.rule.message = some own → text = own) ∧
        (t.rule.message = none → .defaultMessage h t text ∈ calls))
      (wording h t) (wording h t) := by
  unfold wording
  cases own : t.rule.message with
  | some text =>
    exact stateLogs_pure fun _ _ => ⟨fun _ same => Option.some.inj same, fun none => nomatch none⟩
  | none =>
    intro log has lawful
    exact ⟨rfl, fun call mem => List.mem_cons_of_mem _ mem, .defaultMessage lawful (has built),
      fun _ some => (nomatch some), fun _ => List.mem_cons_self⟩

theorem logs_bindRule (answers : Answers registry responder plain) (type : EntityType)
    (shape : Shape) (property : Property) (rule : Rule) :
    Logs registry known (fun calls => Accounts registry calls ⟨shape, property, rule⟩)
      (bindRule registry responder type shape property rule)
      (bindRule registry plain type shape property rule) := by
  unfold bindRule
  cases routed : registry.resolve rule.operator with
  | none => exact logs_throw _
  | some handler =>
    refine logs_lift_bind (stateLogs_callBuild answers routed) fun outcome calls _ built => ?_
    cases outcome with
    | error reason => exact logs_throw _
    | ok predicate =>
      refine logs_lift_bind (stateLogs_wording built) fun text more has worded => ?_
      exact logs_pure fun last grown => ⟨handler, routed, grown (has built), worded.1,
        fun none => grown (worded.2 none)⟩

theorem logs_bindProperty (answers : Answers registry responder plain) (type : EntityType)
    (metadata : MetadataType) (shape : Shape) (declared : DeclaredProperty) :
    Logs registry known
      (fun calls => List.Forall₂ (AccountsFor registry shape calls)
        (declared.rules.map fun rule => (declared.name, rule)))
      (bindProperty registry responder type metadata shape declared)
      (bindProperty registry plain type metadata shape declared) := by
  refine (logs_requireProperty type metadata shape declared.name).bind
    fun property calls _ found => ?_
  refine (Logs.mapM ?_ declared.rules fun rule _ known =>
    logs_bindRule answers type shape property rule).imp fun calls rules bound => ?_
  · exact fun _ _ _ _ grown accounts => accounts.mono grown
  · rw [List.forall₂_map_left_iff]
    exact bound.imp fun _ _ accounts => ⟨property, found, accounts⟩

/-- With the key known, the log accounts for all rules of a definition. -/
theorem logs_bindAll (answers : Answers registry responder plain) (type : EntityType)
    (metadata : MetadataType) (shape : Shape) (definition : Definition) (key : Option Property) :
    Logs registry known
      (fun calls set => List.Forall₂ (AccountsFor registry shape calls) definition.declaredRules
        set.rules)
      (do
        let rules ← definition.properties.mapM (bindProperty registry responder type metadata shape)
        return RuleSet.mk type key rules.flatten)
      (do
        let rules ← definition.properties.mapM (bindProperty registry plain type metadata shape)
        return RuleSet.mk type key rules.flatten) := by
  refine (Logs.mapM ?_ definition.properties fun d _ known =>
    logs_bindProperty answers type metadata shape d).bind
      fun rules calls _ bound => logs_pure fun more grown => ?_
  · exact fun _ _ _ _ grown block => block.imp fun _ _ => AccountsFor.mono grown
  · have blocks : List.Forall₂ (List.Forall₂ (AccountsFor registry shape more))
        (definition.properties.map fun d => d.rules.map fun rule => (d.name, rule)) rules := by
      rw [List.forall₂_map_left_iff]
      exact bound.imp fun _ _ block => block.imp fun _ _ => AccountsFor.mono grown
    have flat := List.rel_flatten blocks
    rwa [← List.flatMap_def] at flat

theorem logs_bindDefinition (answers : Answers registry responder plain) (type : EntityType)
    (metadata : MetadataType) (shape : Shape) (definition : Definition) :
    Logs registry known
      (fun calls set => List.Forall₂ (AccountsFor registry shape calls) definition.declaredRules
        set.rules)
      (bindDefinition registry responder type metadata shape definition)
      (bindDefinition registry plain type metadata shape definition) := by
  refine (logs_onCaches _).bind fun key calls _ _ => ?_
  cases key with
  | none => exact logs_bindAll answers type metadata shape definition none
  | some name =>
    have property : Logs registry calls (fun _ _ => True)
        (some <$> requireProperty type metadata shape name)
        (some <$> requireProperty type metadata shape name) :=
      (logs_requireProperty type metadata shape name).bind fun p _ _ _ =>
        logs_pure fun _ _ => trivial
    exact property.bind fun key _ _ _ => logs_bindAll answers type metadata shape definition key

/-- What a compilation gives is accounted for, rule by rule. -/
theorem logs_compile (answers : Answers registry responder plain) (catalog : Catalog)
    (bindings : Bindings) (type : EntityType) :
    Logs registry known
      (fun calls set => ∃ m, bindings.table.get? type = some m ∧
        List.Forall₂ (AccountsFor registry (catalog.shape type) calls)
          (catalog.definition m).declaredRules set.rules)
      (compile catalog registry bindings responder type)
      (compile catalog registry bindings plain type) := by
  unfold compile Bindings.lookup
  cases bound : bindings.table.get? type with
  | none => exact logs_throw _
  | some m =>
    exact (logs_bindDefinition answers type m (catalog.shape type) (catalog.definition m)).imp
      fun _ _ accounted => ⟨m, rfl, accounted⟩

theorem logs_cachedOrCompiled (answers : Answers registry responder plain) (catalog : Catalog)
    (bindings : Bindings) (type : EntityType) :
    Logs registry known (fun _ _ => True)
      (cachedOrCompiled catalog registry bindings responder type)
      (cachedOrCompiled catalog registry bindings plain type) := by
  refine logs_theCaches.bind fun c calls _ _ => ?_
  cases c.sets.get? type with
  | some set => exact logs_pure fun _ _ => trivial
  | none =>
    refine (logs_onCaches _).bind fun _ calls _ _ => ?_
    refine (logs_compile answers catalog bindings type).bind fun set calls _ _ => ?_
    exact (logs_onCaches _).bind fun _ _ _ _ => logs_pure fun _ _ => trivial

/-- Requests inside requests are answered alike, to any depth. -/
theorem answers_nestedResponder (catalog : Catalog) (registry : Registry) (bindings : Bindings)
    (depth : Nat) (chain : List EntityType) :
    Answers registry (nestedResponder catalog registry bindings depth chain)
      (nestedResponder catalog registry bindings depth chain) := by
  have outcome {known : List HandlerCall} {x : CompilingIn CallLog RuleSet} {y : Compiling RuleSet}
      (steps : Logs registry known (fun _ _ => True) x y) :
      StateLogs registry known (fun _ _ => True) (Answer.outcome <$> x.run)
        (Answer.outcome <$> y.run) :=
    StateLogs.bind steps fun result _ _ _ => stateLogs_pure fun _ _ => trivial
  induction depth generalizing chain with
  | zero =>
    intro type known
    unfold nestedResponder
    split
    · exact stateLogs_pure fun _ _ => trivial
    · exact outcome ((logs_onCaches _).bind fun _ _ _ _ => logs_throw _)
  | succ depth ih =>
    intro type known
    unfold nestedResponder
    split
    · exact stateLogs_pure fun _ _ => trivial
    · exact outcome (logs_cachedOrCompiled (ih (type :: chain)) catalog bindings type)

theorem logs_ruleSetOf (catalog : Catalog) (registry : Registry) (bindings : Bindings)
    (type : EntityType) :
    Logs registry known (fun _ _ => True) (ruleSetOf catalog registry bindings type)
      (ruleSetOf catalog registry bindings type) :=
  logs_cachedOrCompiled (answers_nestedResponder catalog registry bindings _ _) catalog bindings
    type

end Steps

end CallLog
end Rulebook
