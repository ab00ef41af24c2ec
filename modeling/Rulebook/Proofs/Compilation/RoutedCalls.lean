/-
Rulebook.Proofs.Compilation.RoutedCalls — handlers are called for what they claim.

The handlers of orderings and equalities keep a way out for rules of other operators:
they refuse to bind them, and word them without the operator or with a question mark
for the operand.  No compilation gets there.  Rules are routed by the slots of the
registry, which lead to handlers that claim the operator, and a rule is worded only
after it has been bound, when its operand is known to be there.

  §1 Operands — the right operand of a rule and the name that it goes by.
  §2 Wording  — how comparisons are put into words, and by which handlers.
  §3 Calls    — the calls that compilations make, and the rules that they end in.
-/
import Rulebook.Handler.Fixed
import Rulebook.Handler.Matching
import Rulebook.Proofs.Compilation.HandlerCalls
import Rulebook.Proofs.Handler.BuiltinHandlers
import Rulebook.Proofs.Handler.RegistryRuns

namespace Rulebook

/-! ## 1. Operands -/

/-- The right operand of a rule and its name: the text of the constant, or the name of the sibling
where there is no constant. -/
inductive Target.Names (t : Target) : Operand → String → Prop
  | constant (v : Value) (given : t.rule.constant = some v) : Names t (.constant v) v.display
  | sibling (name : String) (p : Property) (unset : t.rule.constant = none)
      (given : t.rule.sibling = some name) (found : t.shape.property? name = some p) :
      Names t (.property p) name

/-- An operand that is a constant is that of the rule. -/
theorem Target.constant_of_operand {t : Target} {v : Value}
    (operand : t.operand = .ok (.constant v)) : t.rule.constant = some v := by
  unfold Target.operand at operand
  split at operand
  · rename_i given
    cases operand
    exact given
  · split at operand
    · cases operand
    · split at operand <;> cases operand

/-- An operand that is there goes by its name in messages. -/
theorem Target.names_of_operand {t : Target} {right : Operand} (operand : t.operand = .ok right) :
    t.Names right t.operandText := by
  rw [operandText, operand]
  cases right with
  | constant v => exact .constant v (constant_of_operand operand)
  | property p =>
    obtain ⟨unset, name, given, found⟩ := sibling_of_operand operand
    obtain rfl : p.name = name := Scan.name_of_property? found
    exact .sibling p.name p unset given found

/-! ## 2. Wording -/

/-- The handler is that of the orderings or that of the equalities, under any type name. -/
inductive Handler.Compares : Handler → Prop
  | ordering (type : TypeId) : Compares (.ordering type)
  | equality (type : TypeId) : Compares (.equality type)

/-- The text says that the property must compare so with the operand, and calls it by its name. -/
inductive Comparison.SaidBy (t : Target) : Comparison → String → Prop
  | greater {right : Operand} {name : String} (named : t.Names right name) :
      SaidBy t ⟨.ordering .greater, right⟩
        (t.property.name ++ " must be " ++ "greater than" ++ " " ++ name)
  | greaterOrEqual {right : Operand} {name : String} (named : t.Names right name) :
      SaidBy t ⟨.ordering .greaterOrEqual, right⟩
        (t.property.name ++ " must be " ++ "greater than or equal to" ++ " " ++ name)
  | less {right : Operand} {name : String} (named : t.Names right name) :
      SaidBy t ⟨.ordering .less, right⟩
        (t.property.name ++ " must be " ++ "less than" ++ " " ++ name)
  | lessOrEqual {right : Operand} {name : String} (named : t.Names right name) :
      SaidBy t ⟨.ordering .lessOrEqual, right⟩
        (t.property.name ++ " must be " ++ "less than or equal to" ++ " " ++ name)
  | equal {right : Operand} {name : String} (named : t.Names right name) :
      SaidBy t ⟨.equality false, right⟩ (t.property.name ++ " " ++ "must equal" ++ " " ++ name)
  | different {right : Operand} {name : String} (named : t.Names right name) :
      SaidBy t ⟨.equality true, right⟩ (t.property.name ++ " " ++ "must not equal" ++ " " ++ name)

/-- What a rule asks for by the operator of a judgement other than matching is so judged. -/
theorem Comparison.IsFor.judgement_eq [Patterns] {t : Target} {c : Comparison} (isFor : c.IsFor t)
    {j : Judgement} (operator : j.operator = t.rule.operator)
    (unmatched : ∀ test, j ≠ .matching test) : c.judgement = j := by
  have alike := isFor.operator.trans operator.symm
  rcases Judgement.eq_of_operator_eq alike with same | ⟨_, r, -, same⟩
  · exact same
  · exact absurd same (unmatched r)

section Wording

variable {t : Target} {c : Comparison}

/-- The ordering handler words the comparison that a rule with one of its operators asks for. -/
theorem Relation.saidBy_defaultMessage [Patterns] (claimed : t.rule.operator ∈ operators)
    (isFor : c.IsFor t) : c.SaidBy t (defaultMessage t) := by
  obtain ⟨relation, named⟩ := exists_of_mem claimed
  obtain ⟨judgement, right⟩ := c
  obtain rfl : judgement = .ordering relation :=
    isFor.judgement_eq (operator_of_ofOperator? named) fun _ => nofun
  have operand := Target.names_of_operand isFor.operand
  unfold defaultMessage
  rw [named]
  cases relation with
  | greater => exact .greater operand
  | greaterOrEqual => exact .greaterOrEqual operand
  | less => exact .less operand
  | lessOrEqual => exact .lessOrEqual operand

/-- So does the equality handler. -/
theorem Equality.saidBy_defaultMessage [Patterns] (claimed : t.rule.operator ∈ operators)
    (isFor : c.IsFor t) : c.SaidBy t (defaultMessage t) := by
  obtain ⟨judgement, right⟩ := c
  have named := Target.names_of_operand isFor.operand
  unfold defaultMessage
  simp only [operators, List.mem_cons, List.not_mem_nil, or_false] at claimed
  rcases claimed with equal | different
  · obtain rfl : judgement = .equality false := isFor.judgement_eq equal.symm fun _ => nofun
    have apart : t.rule.operator ≠ .notEqual := by
      rw [equal]
      decide
    rw [if_neg apart]
    exact .equal named
  · obtain rfl : judgement = .equality true := isFor.judgement_eq different.symm fun _ => nofun
    rw [if_pos different]
    exact .different named

/-- An ordering is refused for its kinds or for want of an operand, never for the operator. -/
theorem Relation.bind_ne_unsupported (claimed : t.rule.operator ∈ operators) {reason : Refusal}
    (refused : bind t = .error reason) (why : String) : reason ≠ .unsupportedOperand why := by
  obtain ⟨relation, named⟩ := exists_of_mem claimed
  have of_ends (other : Refusal) (ends : bind t = .error other)
      (differs : other ≠ .unsupportedOperand why) : reason ≠ .unsupportedOperand why := by
    rwa [Except.error.inj (refused.symm.trans ends)]
  cases ordered : t.property.kind.isOrdered with
  | false =>
    exact of_ends (.unsupportedKind t.property.kind) (by simp [bind, named, ordered]) (by simp)
  | true =>
    cases operand : t.operand with
    | error e =>
      refine of_ends e (by simp [bind, named, ordered, operand]) ?_
      rcases Target.refusal_of_operand operand with rfl | ⟨name, rfl⟩ <;> simp
    | ok right =>
      cases known : right.kind? with
      | none =>
        exact of_ends (.invalidConstant "null cannot be ordered against")
          (by simp [bind, named, ordered, operand, known]) (by simp)
      | some kind =>
        cases comparable : t.property.kind.isComparableWith kind with
        | false =>
          exact of_ends (.incompatibleOperand t.property.kind kind)
            (by simp [bind, named, ordered, operand, known, comparable]) (by simp)
        | true => simp [bind, named, ordered, operand, known, comparable] at refused

/-- So is an equality. -/
theorem Equality.bind_ne_unsupported (claimed : t.rule.operator ∈ operators) {reason : Refusal}
    (refused : bind t = .error reason) (why : String) : reason ≠ .unsupportedOperand why := by
  obtain ⟨negated, refused⟩ : ∃ negated, bindAs negated t = .error reason := by
    simp only [operators, List.mem_cons, List.not_mem_nil, or_false] at claimed
    unfold bind at refused
    split at refused
    · exact ⟨false, refused⟩
    · rename_i different
      rw [if_pos (claimed.resolve_left different)] at refused
      exact ⟨true, refused⟩
  unfold bindAs at refused
  split at refused
  · rename_i missing
    cases refused
    rcases Target.refusal_of_operand missing with rfl | ⟨name, rfl⟩ <;> exact nofun
  · dsimp only at refused
    split at refused
    · cases refused
    · split at refused
      · cases refused
        exact nofun
      · cases refused

end Wording

namespace Handler.Compares

variable {h : Handler} {t : Target}

/-- The two handlers are built in for the operators that they claim. -/
theorem isBuiltin [Patterns] (compares : h.Compares) (claimed : t.rule.operator ∈ h.operators) :
    h.IsBuiltin t.rule.operator := by
  cases compares with
  | ordering type => exact .ordering type claimed
  | equality type => exact .equality type claimed

/-- What one of them has built for an operator that it claims is a comparison, and its message says
so. -/
theorem comparison [Patterns] (compares : h.Compares) (claimed : t.rule.operator ∈ h.operators)
    {p : Predicate} (built : (h.build t).CanEnd (.ok p)) :
    ∃ c : Comparison, c.IsFor t ∧ p = c.predicate t.property t.rule.allowsNull ∧
      c.SaidBy t (h.defaultMessage t) := by
  have builtin := compares.isBuiltin claimed
  obtain ⟨c, isFor, same⟩ :=
    builtin.comparison_of_build (built.eq_done (builtin.direct t))
  refine ⟨c, isFor, same, ?_⟩
  cases compares with
  | ordering type => exact Relation.saidBy_defaultMessage claimed isFor
  | equality type => exact Equality.saidBy_defaultMessage claimed isFor

/-- It has refused no rule because of the operator. -/
theorem ne_unsupported (compares : h.Compares) (claimed : t.rule.operator ∈ h.operators)
    {reason : Refusal} (refused : (h.build t).CanEnd (.error reason)) (why : String) :
    reason ≠ .unsupportedOperand why := by
  obtain ⟨responder, caches, ended⟩ := refused
  cases compares with
  | ordering type => exact Relation.bind_ne_unsupported claimed ended why
  | equality type => exact Equality.bind_ne_unsupported claimed ended why

end Handler.Compares

/-! ## 3. Calls -/

/-- Handlers claim the operators that are routed to them. -/
theorem Registry.Sound.claims_of_resolve {r : Registry} (sound : r.Sound) {op : Operator}
    {h : Handler} (routed : r.resolve op = some h) : op ∈ h.operators := by
  rw [sound.resolve_eq] at routed
  have claims : h.claims op = true := List.find?_some routed
  exact of_decide_eq_true claims

namespace HandlerCall

/-- What handlers can rely on, the latest call coming first.  They are registered, and called for
operators that they claim.  They word a rule only after they have bound it.  The handlers that
compare refuse no rule because of its operator, and word it as what they have bound it to. -/
structure InOrder [Patterns] (registry : Registry) (calls : List HandlerCall) : Prop where
  claimed : ∀ call ∈ calls, call.handler ∈ registry.handlers ∧
    call.target.rule.operator ∈ call.handler.operators
  built : ∀ later h t text earlier, calls = later ++ .defaultMessage h t text :: earlier →
    ∃ p, .build h t (.ok p) ∈ earlier
  supported : ∀ h t reason, h.Compares → .build h t (.error reason) ∈ calls →
    ∀ why, reason ≠ .unsupportedOperand why
  said : ∀ h t text, h.Compares → .defaultMessage h t text ∈ calls →
    ∃ c : Comparison, c.IsFor t ∧ c.SaidBy t text ∧
      ∀ p, .build h t (.ok p) ∈ calls → p = c.predicate t.property t.rule.allowsNull

/-- Lawful calls are in order. -/
theorem Lawful.inOrder [Patterns] {registry : Registry} (sound : registry.Sound)
    {calls : List HandlerCall} (lawful : Lawful registry calls) : InOrder registry calls where
  claimed call mem := by
    have routed := lawful.routed mem
    exact ⟨Registry.mem_of_resolve routed, sound.claims_of_resolve routed⟩
  built later h t text earlier same := by
    subst same
    exact lawful.built_before.2
  supported h t reason compares mem := by
    obtain ⟨routed, ended⟩ := lawful.routed_of_build mem
    exact compares.ne_unsupported (sound.claims_of_resolve routed) ended
  said h t text compares mem := by
    obtain ⟨rfl, p, built⟩ := lawful.build_of_defaultMessage mem
    obtain ⟨routed, ended⟩ := lawful.routed_of_build built
    have claimed := sound.claims_of_resolve routed
    obtain ⟨c, isFor, -, said⟩ := compares.comparison claimed ended
    refine ⟨c, isFor, said, fun q built' => ?_⟩
    obtain ⟨c', isFor', same, -⟩ := compares.comparison claimed (lawful.routed_of_build built').2
    rw [same, isFor'.unique isFor]

end HandlerCall

/-- If a handler that compares has bound the rule, then its predicate is a comparison that the
declared rule asks for, and its message says so unless the declared rule has one. -/
def BoundRule.SaysWhatItCompares [Patterns] (registry : Registry) (shape : Shape)
    (declared : String × Rule) (bound : BoundRule) : Prop :=
  ∀ property h, shape.property? declared.1 = some property →
    registry.resolve declared.2.operator = some h → h.Compares →
      ∃ c : Comparison, c.IsFor ⟨shape, property, declared.2⟩ ∧
        bound.predicate = c.predicate property declared.2.allowsNull ∧
        (declared.2.message = none → c.SaidBy ⟨shape, property, declared.2⟩ bound.message)

/-- A rule that lawful calls account for says what it compares. -/
theorem HandlerCall.AccountsFor.saysWhatItCompares [Patterns] {registry : Registry}
    (sound : registry.Sound) {shape : Shape} {calls : List HandlerCall}
    (lawful : Lawful registry calls) {declared : String × Rule} {bound : BoundRule}
    (accounts : AccountsFor registry shape calls declared bound) :
    bound.SaysWhatItCompares registry shape declared := by
  intro property h found routed compares
  obtain ⟨property', found', h', routed', built, -, worded⟩ := accounts
  obtain rfl : property' = property := Option.some.inj (found'.symm.trans found)
  obtain rfl : h' = h := Option.some.inj (routed'.symm.trans routed)
  obtain ⟨c, isFor, same, said⟩ := compares.comparison
    (t := ⟨shape, property', declared.2⟩) (sound.claims_of_resolve routed)
    (lawful.routed_of_build built).2
  refine ⟨c, isFor, same, fun none => ?_⟩
  rw [(lawful.build_of_defaultMessage (worded none)).1]
  exact said

/-- Let handlers be registered and discovered in any way, with operators that overlap as they may.
A compilation that logs its calls of handlers does what it does without the log, whatever answers
the requests of handlers: its calls are in order, and in the rule set that it ends in, every rule is
accounted for by calls, and says what it compares.  The same holds of the calls that are made to
serve a request, among them those of all compilations that handlers ask for.  Registrations that are
reported lead to the same registry. -/
theorem handlers_called_in_order [Patterns] (registrations : List Registration)
    (catalog : Catalog) (bindings : Bindings) (caches : Caches) (type : EntityType) :
    let registry := Registry.empty.run registrations
    (∀ responder,
      let compiled := (compile catalog registry bindings
        (CallLog.quietResponder responder) type).run.run ⟨caches, []⟩
      (compiled.1, compiled.2.caches)
          = (compile catalog registry bindings responder type).run.run caches ∧
        HandlerCall.InOrder registry compiled.2.calls ∧
        ∀ set, compiled.1 = .ok set → ∃ m, bindings.table.get? type = some m ∧
          List.Forall₂
            (fun declared bound =>
              HandlerCall.AccountsFor registry (catalog.shape type) compiled.2.calls declared
                  bound ∧
                bound.SaysWhatItCompares registry (catalog.shape type) declared)
            (catalog.definition m).declaredRules set.rules) ∧
      let served := (ruleSetOf catalog registry bindings type).run.run (CallLog.mk caches [])
      (served.1, served.2.caches)
          = (ruleSetOf catalog registry bindings type).run.run caches ∧
        HandlerCall.InOrder registry served.2.calls ∧
        ∀ told reported, Registry.empty.runReporting registrations = some (told, reported) →
          reported = registry := by
  intro registry
  have sound : registry.Sound := (Registry.orderly_empty.run registrations).slots
  refine ⟨fun responder => ?_, ?_⟩
  · have answers := CallLog.answers_quietResponder registry responder
    obtain ⟨same, -, lawful, bound⟩ := CallLog.logs_compile answers catalog bindings type
      ⟨caches, []⟩ (List.nil_subset _) .nil
    refine ⟨same, lawful.inOrder sound, fun set compiled => ?_⟩
    obtain ⟨m, bound, accounted⟩ := bound set compiled
    refine ⟨m, bound, accounted.imp fun declared bound accounts => ⟨accounts, ?_⟩⟩
    exact accounts.saysWhatItCompares sound lawful
  · obtain ⟨same, -, lawful, -⟩ := CallLog.logs_ruleSetOf catalog registry bindings type
      ⟨caches, []⟩ (List.nil_subset _) .nil
    exact ⟨same, lawful.inOrder sound, fun _ _ => Registry.runReporting_eq⟩

/-! ### Trips -/

/-- A trip ends after it starts. -/
def tripRule : Rule := { operator := .greaterThan, sibling := some "start" }

/-- Trips, with a rule for the end, and one for the price. -/
def trips : Catalog where
  shape _ := ⟨"Trip",
    [⟨"start", 0, .int, false⟩, ⟨"end", 1, .int, false⟩, ⟨"price", 2, .int, false⟩]⟩
  definition _ := .ofSteps
    [⟨"end", [.rule tripRule]⟩,
      ⟨"price", [.rule { operator := .notEqual, constant := some (.int 0) }]⟩]
  entries := []
  standardModule := "standard"

/-- The end of trips, as the target of its rule. -/
def tripTarget : Target := ⟨trips.shape ⟨"Trip"⟩, ⟨"end", 1, .int, false⟩, tripRule⟩

/-- Trips are bound to their rules. -/
def tripBindings : Bindings := ⟨FiniteMap.empty.insert ⟨"Trip"⟩ ⟨"TripRules"⟩⟩

/-- Another handler takes an operator of the equalities before these are registered. -/
def tripHandlers : List Registration :=
  [.handler (.fixed "Never" [.notEqual] false), .handler (.ordering "Ordering"),
    .handler (.equality "Equality")]

/-- The end is compared as its message says, and the price goes to the handler that came first. -/
theorem handlers_called_in_order_trips :
    let compiled := (compile trips (Registry.empty.run tripHandlers) tripBindings
      (CallLog.quietResponder Responder.silent) ⟨"Trip"⟩).run.run ⟨.empty, []⟩
    compiled.2.calls.map (·.handler.typeName) = ["Never", "Never", "Ordering", "Ordering"] ∧
      ∃ set bound, compiled.1 = .ok set ∧ set.rules[0]? = some bound ∧
        bound.message = "end must be greater than start" ∧
        ∃ c : Comparison, c.IsFor tripTarget ∧ c.SaidBy tripTarget bound.message ∧
          bound.predicate = c.predicate tripTarget.property false := by
  intro compiled
  obtain ⟨set, bound, done, at_place, message⟩ : ∃ set bound, compiled.1 = .ok set ∧
      set.rules[0]? = some bound ∧ bound.message = "end must be greater than start" :=
    ⟨_, _, rfl, rfl, by decide⟩
  obtain ⟨logged, -⟩ := handlers_called_in_order tripHandlers trips tripBindings .empty ⟨"Trip"⟩
  obtain ⟨-, -, accounted⟩ := logged Responder.silent
  obtain ⟨m, -, rules⟩ := accounted set done
  obtain ⟨inside, same⟩ := List.getElem?_eq_some_iff.mp at_place
  obtain ⟨-, compares⟩ := rules.get (Nat.zero_lt_succ 1) inside
  have found : (trips.shape ⟨"Trip"⟩).property? "end" = some tripTarget.property := by decide
  obtain ⟨c, isFor, predicate, said⟩ :=
    compares tripTarget.property (.ordering "Ordering") found rfl (.ordering "Ordering")
  refine ⟨rfl, set, bound, done, at_place, message, c, isFor, ?_, ?_⟩
  · rw [← same]
    exact said rfl
  · rw [← same]
    exact predicate

end Rulebook
