/-
Rulebook.Proofs.Handler.RegistryRuns — what holds of every registry that has been
built up from nothing.

A registry is a list of handlers beside a map from operators to places in that
list, and both are written by the same insertions: places are given out first, for
the handler that is added last.  `Registry.Orderly` is what every insertion keeps
of the two, whatever operators a handler claims, so it holds after any run of
registrations and discoveries; what the registry answers is read off it.

  §1 Order     — operators are put in order.
  §2 Runs      — registrations one after the other, with and without reports.
  §3 Insertion — types stay without repetition, and slots sound.
  §4 Answers   — routing, support and the list of operators, for orderly registries.
  §5 Growth    — handlers and routes stay.
-/
import Rulebook.Proofs.Handler.ReportedClaims

namespace Rulebook

/-! ## 1. Order -/

/-- Texts compare by their order. -/
theorem lt_of_compare {a b : String} (order : compare a b = .lt) : a < b :=
  compareOfLessAndEq_eq_lt.mp order

/-- What is sorted by a comparison is in order. -/
theorem pairwise_mergeSort_isLE {α : Type} (cmp : α → α → Ordering) [Std.TransCmp cmp]
    (as : List α) :
    (as.mergeSort fun a b => (cmp a b).isLE).Pairwise fun a b => (cmp a b).isLE = true := by
  refine List.pairwise_mergeSort ?_ ?_ as
  · intro a b c ab bc
    exact Std.TransCmp.isLE_trans ab bc
  · intro a b
    have turned : cmp b a = (cmp a b).swap := Std.OrientedCmp.eq_swap
    rw [turned]
    cases cmp a b <;> rfl

/-- Operators without repetition are put in strictly ascending order of their names. -/
theorem Operator.pairwise_sorted {ops : List Operator} (distinct : ops.Nodup) :
    (Operator.sorted ops).Pairwise fun a b => a.name < b.name := by
  have ascending : (Operator.sorted ops).Pairwise fun a b => Operator.le a b = true :=
    pairwise_mergeSort_isLE (compareOn Operator.name) ops
  have apart : (Operator.sorted ops).Pairwise (· ≠ ·) :=
    (List.mergeSort_perm ops Operator.le).nodup_iff.mpr distinct
  refine ascending.imp₂ (fun a b le ne => ?_) apart
  unfold Operator.le at le
  cases order : compare a.name b.name with
  | lt => exact lt_of_compare order
  | eq => exact absurd (congrArg Operator.mk (Std.LawfulEqCmp.eq_of_compare order)) ne
  | gt =>
    rw [order] at le
    cases le

/-! ## 2. Runs -/

/-- What may be asked of a registry that changes it. -/
inductive Registration
  | handler (h : Handler)
  | discovery (entries : List HandlerEntry) (modules : List String)

/-- The handlers that may be added. -/
def Registration.offered : Registration → List Handler
  | .handler h => [h]
  | .discovery entries _ => entries.map (·.handler)

namespace Registry

/-- The registry after a registration. -/
def after (r : Registry) : Registration → Registry
  | .handler h => (r.register h).2
  | .discovery entries modules => (r.discover entries modules).2

/-- The registry after a run of registrations. -/
def run (r : Registry) (registrations : List Registration) : Registry :=
  registrations.foldl after r

/-- The registry after a registration with reports. -/
def afterReporting (r : Registry) : Registration → Option (List (Operator × String) × Registry)
  | .handler h => (r.registerReporting h).map fun (told, _, next) => (told, next)
  | .discovery entries modules =>
    (r.discoverReporting entries modules).map fun (told, _, next) => (told, next)

/-- The registry after a run of registrations with reports. -/
def runReporting (r : Registry) :
    List Registration → Option (List (Operator × String) × Registry)
  | [] => some ([], r)
  | registration :: registrations => do
    let (told, next) ← r.afterReporting registration
    let (more, last) ← next.runReporting registrations
    return (told ++ more, last)

theorem afterReporting_eq {r : Registry} {registration : Registration}
    {told : List (Operator × String)} {next : Registry}
    (done : r.afterReporting registration = some (told, next)) : next = r.after registration := by
  cases registration with
  | handler h =>
    obtain ⟨_, inserted, same⟩ := Option.map_eq_some_iff.mp done
    cases same
    exact congrArg Prod.snd (registerReporting_eq inserted).1
  | discovery entries modules =>
    obtain ⟨_, discovered, same⟩ := Option.map_eq_some_iff.mp done
    cases same
    exact congrArg Prod.snd (registerAllReporting_eq discovered)

/-- Where a run can be reported, it is the run. -/
theorem runReporting_eq {r : Registry} {registrations : List Registration}
    {told : List (Operator × String)} {last : Registry}
    (done : r.runReporting registrations = some (told, last)) : last = r.run registrations := by
  induction registrations generalizing r told with
  | nil =>
    cases done
    rfl
  | cons registration registrations ih =>
    obtain ⟨⟨first, next⟩, once, rest⟩ := Option.bind_eq_some_iff.mp done
    obtain ⟨⟨more, last⟩, others, all⟩ := Option.bind_eq_some_iff.mp rest
    cases all
    obtain rfl := afterReporting_eq once
    exact ih others

/-! ## 3. Insertion -/

/-- No type is registered twice, and every operator has the position of the first handler that
claims it as its slot. -/
structure Orderly (r : Registry) : Prop where
  types : r.types.Nodup
  slots : r.Sound

theorem orderly_empty : Registry.empty.Orderly where
  types := List.nodup_nil
  slots := sound_empty

/-- A handler of a type that is registered changes nothing. -/
theorem register_of_mem {r : Registry} {h : Handler} (known : h.type ∈ r.types) :
    r.register h = (false, r) :=
  if_pos (holdsType_iff.mpr known)

/-- A handler of a new type is added at the end. -/
theorem register_of_not_mem {r : Registry} {h : Handler} (new : h.type ∉ r.types) :
    (r.register h).1 = true ∧ (r.register h).2.handlers = r.handlers ++ [h] := by
  simp [register, holdsType_of_not_mem new, handlers_claimAll]

theorem Orderly.register {r : Registry} (orderly : r.Orderly) (h : Handler) :
    (r.register h).2.Orderly := by
  by_cases known : h.type ∈ r.types
  · rwa [register_of_mem known]
  · refine ⟨?_, orderly.slots.register h⟩
    rw [Registry.types, (register_of_not_mem known).2, List.map_append, List.map_singleton,
      ← List.concat_eq_append]
    exact orderly.types.concat known

theorem Orderly.registerAll {r : Registry} (orderly : r.Orderly) (es : List HandlerEntry) :
    (r.registerAll es).2.Orderly := by
  induction es generalizing r with
  | nil => exact orderly
  | cons e es ih => exact ih (orderly.register e.handler)

theorem Orderly.after {r : Registry} (orderly : r.Orderly) (registration : Registration) :
    (r.after registration).Orderly := by
  cases registration with
  | handler h => exact orderly.register h
  | discovery entries modules => exact orderly.registerAll (found entries modules)

theorem Orderly.run {r : Registry} (orderly : r.Orderly) (registrations : List Registration) :
    (r.run registrations).Orderly := by
  induction registrations generalizing r with
  | nil => exact orderly
  | cons registration registrations ih => exact ih (orderly.after registration)

/-- A registration that offers no handler with an operator listed twice can be reported. -/
theorem Orderly.exists_afterReporting {r : Registry} (orderly : r.Orderly)
    {registration : Registration} (distinct : ∀ h ∈ registration.offered, h.operators.Nodup) :
    ∃ told, r.afterReporting registration = some (told, r.after registration) := by
  cases registration with
  | handler h =>
    obtain ⟨told, inserted⟩ :=
      orderly.slots.exists_registerReporting (distinct h (List.mem_singleton_self h))
    exact ⟨told, by rw [afterReporting, inserted]; rfl⟩
  | discovery entries modules =>
    have own : ∀ e ∈ found entries modules, e.handler.operators.Nodup := by
      intro e mem
      have listed := (List.mem_filter.mp (List.mem_mergeSort.mp mem)).1
      exact distinct e.handler (List.mem_map_of_mem listed)
    obtain ⟨told, discovered⟩ := orderly.slots.exists_registerAllReporting own
    exact ⟨told, by rw [afterReporting, discoverReporting, discovered]; rfl⟩

/-- So can runs of them. -/
theorem Orderly.exists_runReporting {r : Registry} (orderly : r.Orderly)
    {registrations : List Registration}
    (distinct : ∀ registration ∈ registrations, ∀ h ∈ registration.offered, h.operators.Nodup) :
    ∃ told, r.runReporting registrations = some (told, r.run registrations) := by
  induction registrations generalizing r with
  | nil => exact ⟨[], rfl⟩
  | cons registration registrations ih =>
    obtain ⟨own, others⟩ := List.forall_mem_cons.mp distinct
    obtain ⟨told, once⟩ := orderly.exists_afterReporting own
    obtain ⟨more, rest⟩ := ih (orderly.after registration) others
    refine ⟨told ++ more, ?_⟩
    simp only [runReporting, once, rest, Option.bind_eq_bind, Option.bind_some]
    rfl

/-! ## 4. Answers -/

/-- The handler is registered and claims the operator, and no handler registered before it does. -/
def IsFirstClaiming (r : Registry) (op : Operator) (h : Handler) : Prop :=
  ∃ earlier later, r.handlers = earlier ++ h :: later ∧ op ∈ h.operators ∧
    ∀ x ∈ earlier, op ∉ x.operators

section Answers

variable {r : Registry}

theorem Orderly.resolve_eq_some_iff (orderly : r.Orderly) {op : Operator} {h : Handler} :
    r.resolve op = some h ↔ r.IsFirstClaiming op h := by
  rw [orderly.slots.resolve_eq, List.find?_eq_some_iff_append]
  simp only [Handler.claims, decide_eq_true_eq, Bool.not_eq_true', decide_eq_false_iff_not]
  constructor
  · rintro ⟨claims, earlier, later, split, none⟩
    exact ⟨earlier, later, split, claims, none⟩
  · rintro ⟨earlier, later, split, claims, none⟩
    exact ⟨claims, earlier, later, split, none⟩

theorem Orderly.resolve_eq_none_iff (orderly : r.Orderly) {op : Operator} :
    r.resolve op = none ↔ ∀ h ∈ r.handlers, op ∉ h.operators := by
  rw [orderly.slots.resolve_eq, List.find?_eq_none]
  simp only [Handler.claims, decide_eq_true_eq]

/-- An operator is supported where it is routed to a handler. -/
theorem Orderly.supports_eq (orderly : r.Orderly) (op : Operator) :
    r.supports op = (r.resolve op).isSome := by
  rw [supports, FiniteMap.contains, orderly.slots.resolve_eq, orderly.slots op,
    List.findIdx?_isSome, List.isSome_find?]

theorem Orderly.mem_operators_iff (orderly : r.Orderly) {op : Operator} :
    op ∈ r.operators ↔ ∃ h ∈ r.handlers, op ∈ h.operators := by
  rw [operators, Operator.sorted, List.mem_mergeSort, ← FiniteMap.contains_iff_mem_keys,
    FiniteMap.contains, orderly.slots op, List.findIdx?_isSome]
  simp only [List.any_eq_true, Handler.claims, decide_eq_true_eq]

end Answers

/-! ## 5. Growth -/

theorem prefix_registerAll (r : Registry) (es : List HandlerEntry) :
    r.handlers <+: (r.registerAll es).2.handlers := by
  induction es generalizing r with
  | nil => exact List.prefix_rfl
  | cons e es ih =>
    have first : r.handlers <+: (r.register e.handler).2.handlers := by
      rw [handlers_register]
      exact prefix_extended r.handlers e.handler
    exact first.trans (ih (r.register e.handler).2)

theorem prefix_after (r : Registry) (registration : Registration) :
    r.handlers <+: (r.after registration).handlers := by
  cases registration with
  | handler h =>
    rw [after, handlers_register]
    exact prefix_extended r.handlers h
  | discovery entries modules => exact prefix_registerAll r (found entries modules)

/-- Handlers are only ever added, and at the end. -/
theorem prefix_run (r : Registry) (registrations : List Registration) :
    r.handlers <+: (r.run registrations).handlers := by
  induction registrations generalizing r with
  | nil => exact List.prefix_rfl
  | cons registration registrations ih => exact (prefix_after r registration).trans (ih _)

/-- Operators keep their handlers. -/
theorem Orderly.resolve_run {r : Registry} (orderly : r.Orderly) (registrations : List Registration)
    {op : Operator} {h : Handler} (routed : r.resolve op = some h) :
    (r.run registrations).resolve op = some h := by
  rw [(orderly.run registrations).slots.resolve_eq]
  rw [orderly.slots.resolve_eq] at routed
  exact (prefix_run r registrations).find?_eq_some routed

end Registry

/-- After any run of registrations and discoveries, whatever operators the handlers claim, no type
of handlers is registered twice; an operator is routed to the first handler that claims it, and is
supported exactly if there is one; and the operators are listed in strictly ascending order, those
that registered handlers claim and no others.  What is registered and routed then stays so; a
handler of a type that is registered changes nothing, and one of a new type is added at the end.
All this is also so where the operators are reported that other handlers keep: if the reports can be
given, which they can where no handler lists an operator twice, the registry is the same. -/
theorem registry_runs (registrations : List Registration) :
    let r := Registry.empty.run registrations
    (r.handlers.map (·.type)).Nodup ∧
      (∀ op, (∀ h, r.resolve op = some h ↔ r.IsFirstClaiming op h) ∧
        (r.resolve op = none ↔ ∀ h ∈ r.handlers, op ∉ h.operators) ∧
        r.supports op = (r.resolve op).isSome) ∧
      (r.operators.Pairwise (fun a b => a.name < b.name) ∧
        ∀ op, op ∈ r.operators ↔ ∃ h ∈ r.handlers, op ∈ h.operators) ∧
      (∀ further, r.handlers <+: (r.run further).handlers ∧
        ∀ op h, r.resolve op = some h → (r.run further).resolve op = some h) ∧
      (∀ h, if h.type ∈ r.handlers.map (·.type) then r.register h = (false, r)
        else (r.register h).1 = true ∧ (r.register h).2.handlers = r.handlers ++ [h]) ∧
      (∀ told last, Registry.empty.runReporting registrations = some (told, last) → last = r) ∧
      ((∀ registration ∈ registrations, ∀ h ∈ registration.offered, h.operators.Nodup) →
        ∃ told, Registry.empty.runReporting registrations = some (told, r)) := by
  intro r
  have orderly : r.Orderly := Registry.orderly_empty.run registrations
  refine ⟨orderly.types, fun op => ⟨fun h => orderly.resolve_eq_some_iff,
    orderly.resolve_eq_none_iff, orderly.supports_eq op⟩,
    ⟨Operator.pairwise_sorted r.slots.nodup_keys, fun op => orderly.mem_operators_iff⟩,
    fun further => ⟨r.prefix_run further, fun op h => orderly.resolve_run further⟩, fun h => ?_,
    fun _ _ => Registry.runReporting_eq, Registry.orderly_empty.exists_runReporting⟩
  split
  · rename_i known
    exact Registry.register_of_mem known
  · rename_i new
    exact Registry.register_of_not_mem new

end Rulebook
