/-
Rulebook.Proofs.Compilation.Steps — what the steps of a compilation come to,
whatever they do to the caches on the way.

A handler may ask the engine for other rule sets while it binds a rule, and
its answers come out of the caches.  A handler is pure when its bindings depend
on their targets alone: it may ask, but every answer leads to the same result
(`Build.Settles`).  Under pure handlers the result of a compilation no longer
depends on the caches, and the lemmas here make that precise step by step:

  §1 Pure handlers — outcomes of builds, and that running a settled build gives
                     its outcome under every responder.
  §2 Steps         — `Yields inv x result`: from caches with `inv` the steps `x`
                     end in `result` and leave caches with `inv`; one lemma per
                     way of combining steps.

The invariant `inv` is a parameter: compilations of a single type need none
about the caches, runs of an engine carry the coherence of both caches in it.
-/
import Rulebook.Compilation

namespace Rulebook

/-! ## 1. Pure handlers -/

/-- What a build comes to when there is no engine to ask. -/
def Build.outcome : Build → Except Refusal Predicate
  | .done result => result
  | .ask _ next => (next .noEngine).outcome

/-- The build comes to the result whatever it is answered. -/
inductive Build.Settles : Build → Except Refusal Predicate → Prop
  | done (result : Except Refusal Predicate) : Settles (.done result) result
  | ask {type : EntityType} {next : Answer → Build} {result : Except Refusal Predicate}
      (h : ∀ answer, Settles (next answer) result) : Settles (.ask type next) result

theorem Build.Settles.outcome_eq {b : Build} {result : Except Refusal Predicate}
    (h : b.Settles result) : b.outcome = result := by
  induction h with
  | done result => rfl
  | ask _ ih => exact ih .noEngine

/-- Bindings depend on their targets alone. -/
def Handler.IsPure (h : Handler) : Prop := ∀ t, (h.build t).Settles (h.build t).outcome

theorem Handler.IsPure.settles_iff {h : Handler} (pure : h.IsPure) (t : Target)
    (result : Except Refusal Predicate) :
    (h.build t).Settles result ↔ (h.build t).outcome = result := by
  constructor
  · exact Build.Settles.outcome_eq
  · rintro rfl
    exact pure t

theorem Handler.isPure_direct (type : TypeId) (name : String) (operators : List Operator)
    (bind : Target → Except Refusal Predicate) (defaultMessage : Target → String) :
    (Handler.direct type name operators bind defaultMessage).IsPure :=
  fun t => .done (bind t)

/-- Answering requests leaves caches as the invariant says. -/
def Responder.Keeps (inv : Caches → Prop) (responder : Responder) : Prop :=
  ∀ type c, inv c → inv ((responder type).run c).2

/-- A settled build gives its result under every responder. -/
theorem Build.Settles.run_eq {inv : Caches → Prop} {responder : Responder}
    (hr : responder.Keeps inv) {b : Build} {result : Except Refusal Predicate}
    (h : b.Settles result) : ∀ c, inv c →
      ((b.run responder).run c).1 = result ∧ inv ((b.run responder).run c).2 := by
  induction h with
  | done result => exact fun c hc => ⟨rfl, hc⟩
  | @ask type next result _ ih =>
    intro c hc
    exact ih ((responder type).run c).1 ((responder type).run c).2 (hr type c hc)

/-! ## 2. Steps -/

namespace Compiling

variable {α β : Type} {inv : Caches → Prop}

/-- From caches with the invariant, the steps end in the result and leave the invariant. -/
def Yields (inv : Caches → Prop) (x : Compiling α) (result : Except Misconfiguration α) : Prop :=
  ∀ c, inv c → (x.run.run c).1 = result ∧ inv (x.run.run c).2

theorem yields_pure (a : α) : Yields inv (pure a) (.ok a) := fun _ hc => ⟨rfl, hc⟩

theorem yields_throw (e : Misconfiguration) : Yields inv (throw e : Compiling α) (.error e) :=
  fun _ hc => ⟨rfl, hc⟩

/-- Steps in sequence run the later ones from where the earlier ones ended, unless these failed. -/
theorem run_bind (x : Compiling α) (f : α → Compiling β) (c : Caches) :
    (x >>= f).run.run c =
      match x.run.run c with
      | (.ok a, later) => (f a).run.run later
      | (.error e, later) => (.error e, later) := by
  rw [ExceptT.run_bind, StateT.run_bind]
  rcases x.run.run c with ⟨outcome, later⟩
  cases outcome <;> rfl

/-- Steps that work on the caches first go on from what that leaves. -/
theorem run_onCaches_bind (work : Caches → α × Caches) (f : α → Compiling β) (c : Caches) :
    (onCaches work >>= f : Compiling β).run.run c = (f (work c).1).run.run (work c).2 := rfl

theorem Yields.bind {x : Compiling α} {result : Except Misconfiguration α} {f : α → Compiling β}
    {g : α → Except Misconfiguration β} (hx : Yields inv x result)
    (hf : ∀ a, result = .ok a → Yields inv (f a) (g a)) : Yields inv (x >>= f) (result >>= g) := by
  intro c hc
  obtain ⟨value, kept⟩ := hx c hc
  rw [run_bind]
  rcases hrun : x.run.run c with ⟨outcome, later⟩
  rw [hrun] at value kept
  subst value
  cases outcome with
  | error e => exact ⟨rfl, kept⟩
  | ok a => exact hf a rfl later kept

/-- Steps that cannot fail pass on what they give. -/
theorem yields_lift_bind {x : StateM Caches α} {a : α} {f : α → Compiling β}
    {result : Except Misconfiguration β}
    (hx : ∀ c, inv c → (x.run c).1 = a ∧ inv (x.run c).2) (hf : Yields inv (f a) result) :
    Yields inv (liftM x >>= f) result := by
  intro c hc
  obtain ⟨value, kept⟩ := hx c hc
  have next := hf (x.run c).2 kept
  rw [← value] at next
  exact next

theorem Yields.map {x : Compiling α} {result : Except Misconfiguration α} (f : α → β)
    (hx : Yields inv x result) : Yields inv (f <$> x) (f <$> result) := by
  have steps := hx.bind (f := fun a => pure (f a)) (g := fun a => .ok (f a))
    fun a _ => yields_pure (f a)
  have same : (f <$> result) = result >>= fun a => .ok (f a) := by cases result <;> rfl
  rw [same]
  exact steps

/-- Steps for each element of a list, in order, up to the first failure. -/
theorem Yields.mapM {f : α → Compiling β} {g : α → Except Misconfiguration β} (xs : List α)
    (h : ∀ a ∈ xs, Yields inv (f a) (g a)) : Yields inv (xs.mapM f) (xs.mapM g) := by
  induction xs with
  | nil => exact yields_pure []
  | cons a xs ih =>
    rw [List.mapM_cons, List.mapM_cons]
    refine Yields.bind (h a List.mem_cons_self) fun b _ => ?_
    refine Yields.bind (ih fun a' h' => h a' (List.mem_cons_of_mem a h')) fun bs _ => ?_
    exact yields_pure (b :: bs)

end Compiling

/-! ## 3. Calls without notes -/

theorem callBuild_eq (responder : Responder) (h : Handler) (t : Target) :
    callBuild responder h t = (h.build t).run responder := rfl

theorem wording_eq (h : Handler) (t : Target) :
    (wording h t : StateM Caches String) = pure (t.rule.message.getD (h.defaultMessage t)) := by
  unfold wording
  cases t.rule.message <;> rfl

/-- An engine has a rule bound by its handler, and takes the text that the rule has or else that of
the handler. -/
theorem bindRule_eq (registry : Registry) (responder : Responder) (type : EntityType)
    (shape : Shape) (property : Property) (rule : Rule) :
    (bindRule registry responder type shape property rule : Compiling BoundRule) =
      match registry.resolve rule.operator with
      | none => throw (.handlerNotFound rule.operator type property.name)
      | some handler => do
        match ← (handler.build ⟨shape, property, rule⟩).run responder with
        | .error reason => throw (.binding type property.name rule.operator reason)
        | .ok predicate =>
          return { property := property.name
                   operator := rule.operator
                   predicate := predicate
                   message := rule.message.getD (handler.defaultMessage ⟨shape, property, rule⟩)
                   severity := rule.severity } := by
  unfold bindRule
  simp only [callBuild_eq, wording_eq]
  rfl

end Rulebook
