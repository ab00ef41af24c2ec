/-
Rulebook.Proofs.Handler.ReportedClaims — insertions that name the owners they find.

An insertion gives out the slot of the new handler, operator by operator, before the
handler stands there, and so slots may lead nowhere until it is done.  An operator that
has a slot already is left alone, and the handler that keeps it is looked up by the slot
where that is to be reported.  Such an insertion may meet a slot that leads nowhere, and
then ends in nothing; where it ends, it has done what an insertion without reports does.

  §1 Claims    — what claims do to slots and routes before the handler is added.
  §2 Reports   — claims that are reported, one by one.
  §3 Insertion — when an insertion can be reported, and what it then does.
  §4 Discovery — the same for all handlers found in modules.
-/
import Mathlib.Data.List.Nodup
import Rulebook.Proofs.Handler.RegistryTheorems

namespace Rulebook
namespace Registry

/-! ## 1. Claims -/

/-- The registry as an insertion of the handler has it after the first `i` operators. -/
def claiming (r : Registry) (h : Handler) (i : Nat) : Registry :=
  (h.operators.take i).foldl (claim r.handlers.length) r

theorem handlers_claiming (r : Registry) (h : Handler) (i : Nat) :
    (r.claiming h i).handlers = r.handlers :=
  handlers_claimAll r.handlers.length (h.operators.take i) r

/-- A slot that waits for its handler routes nothing. -/
theorem resolve_claim (r : Registry) (first op : Operator) :
    (r.claim r.handlers.length first).resolve op = r.resolve op := by
  have nowhere : r.handlers[r.handlers.length]? = none := List.getElem?_eq_none (Nat.le_refl _)
  rw [resolve, resolve, get?_claim, handlers_claim]
  cases r.slots.get? op with
  | some owner => rfl
  | none =>
    split
    · exact nowhere
    · rfl

/-! ## 2. Reports -/

section Reports

variable {r : Registry} {op : Operator}

/-- A claim of an operator without a slot reports nothing. -/
theorem claimReporting_of_none (position : Nat) (unclaimed : r.slots.get? op = none) :
    r.claimReporting position op = some ([], r.claim position op) := by
  rw [claimReporting, claim, unclaimed]

/-- A claim of an operator with a slot that leads to a handler reports that one. -/
theorem claimReporting_of_some (position : Nat) {owner : Nat} {h : Handler}
    (slot : r.slots.get? op = some owner) (there : r.handlers[owner]? = some h) :
    r.claimReporting position op = some ([(op, h.name)], r.claim position op) := by
  simp only [claimReporting, claim, slot, there, Option.map_some]

/-- What a claim reports is where the operator is routed, and the rest is as without reports. -/
theorem claimReporting_eq {position : Nat} {told : List (Operator × String)} {next : Registry}
    (done : r.claimReporting position op = some (told, next)) :
    told = ((r.resolve op).map fun h => (op, h.name)).toList ∧ next = r.claim position op := by
  cases slot : r.slots.get? op with
  | none =>
    rw [claimReporting_of_none position slot] at done
    cases done
    rw [resolve, slot]
    exact ⟨rfl, rfl⟩
  | some owner =>
    cases there : r.handlers[owner]? with
    | none =>
      rw [claimReporting, slot] at done
      simp [there] at done
    | some h =>
      rw [claimReporting_of_some position slot there] at done
      cases done
      rw [resolve, slot, Option.bind_some, there]
      exact ⟨rfl, rfl⟩

/-- A claim can be reported exactly if the slot that the operator has leads to a handler. -/
theorem isSome_claimReporting (position : Nat) :
    (r.claimReporting position op).isSome = true ↔
      ∀ owner, r.slots.get? op = some owner → owner < r.handlers.length := by
  unfold claimReporting
  cases r.slots.get? op <;> simp

/-- What claims report is where the operators are routed, and the rest is as without reports. -/
theorem claimAllReporting_eq {ops : List Operator} {told : List (Operator × String)}
    {last : Registry} (done : r.claimAllReporting r.handlers.length ops = some (told, last)) :
    told = (ops.filterMap fun op => (r.resolve op).map fun h => (op, h.name)) ∧
      last = ops.foldl (claim r.handlers.length) r := by
  induction ops generalizing r told with
  | nil =>
    cases done
    exact ⟨rfl, rfl⟩
  | cons op ops ih =>
    obtain ⟨⟨first, next⟩, claimed, rest⟩ := Option.bind_eq_some_iff.mp done
    obtain ⟨⟨more, last⟩, others, all⟩ := Option.bind_eq_some_iff.mp rest
    cases all
    obtain ⟨rfl, rfl⟩ := claimReporting_eq claimed
    have later := @ih (r.claim r.handlers.length op) more
    rw [handlers_claim] at later
    obtain ⟨rfl, rfl⟩ := later others
    refine ⟨?_, rfl⟩
    simp only [resolve_claim, List.filterMap_cons]
    cases r.resolve op <;> rfl

/-- Claims can be reported exactly if at every step the slot that the operator has leads to a
handler. -/
theorem isSome_claimAllReporting (position : Nat) (ops : List Operator) :
    (r.claimAllReporting position ops).isSome = true ↔
      ∀ (i : Nat) (op : Operator) (owner : Nat), ops[i]? = some op →
        ((ops.take i).foldl (claim position) r).slots.get? op = some owner →
        owner < r.handlers.length := by
  induction ops generalizing r with
  | nil => simp [claimAllReporting]
  | cons op ops ih =>
    have parts : (r.claimAllReporting position (op :: ops)).isSome = true ↔
        (r.claimReporting position op).isSome = true ∧
          ((r.claim position op).claimAllReporting position ops).isSome = true := by
      rw [claimAllReporting]
      cases claimed : r.claimReporting position op with
      | none => simp
      | some first =>
        obtain ⟨-, next⟩ := claimReporting_eq claimed
        cases others : (r.claim position op).claimAllReporting position ops <;>
          simp [next, others]
    rw [parts, isSome_claimReporting, ih, handlers_claim]
    constructor
    · rintro ⟨first, rest⟩ (_ | i) op' owner listed slot
      · cases listed
        exact first owner slot
      · exact rest i op' owner listed slot
    · intro all
      exact ⟨fun owner => all 0 op owner rfl, fun i op' owner => all (i + 1) op' owner⟩

end Reports

/-! ## 3. Insertion -/

section Insertion

variable {r : Registry}

/-- The slot of an operator in the course of an insertion: the position of the first handler that
claims it, or else the new one's, once its turn has come. -/
theorem Sound.get?_claiming (sound : r.Sound) (h : Handler) (i : Nat) (op : Operator) :
    (r.claiming h i).slots.get? op = (r.handlers.findIdx? (·.claims op)).or
      (if op ∈ h.operators.take i then some r.handlers.length else none) := by
  rw [claiming, get?_claimAll, sound op]

/-- In the course of an insertion a slot leads to a handler if the operator was claimed before; it
is the new handler's otherwise, and leads one past the last handler. -/
theorem Sound.owner_claiming (sound : r.Sound) (h : Handler) {i : Nat} {op : Operator} {owner : Nat}
    (slot : (r.claiming h i).slots.get? op = some owner) :
    (∃ g ∈ r.handlers, op ∈ g.operators) ∧ owner < r.handlers.length ∨
      (∀ g ∈ r.handlers, op ∉ g.operators) ∧ op ∈ h.operators.take i ∧
        owner = r.handlers.length := by
  rw [sound.get?_claiming] at slot
  cases first : r.handlers.findIdx? (·.claims op) with
  | some position =>
    obtain ⟨inside, claims, -⟩ := List.findIdx?_eq_some_iff_getElem.mp first
    rw [first] at slot
    cases slot
    exact .inl ⟨⟨_, List.getElem_mem inside, of_decide_eq_true claims⟩, inside⟩
  | none =>
    rw [first, Option.none_or] at slot
    split at slot
    · rename_i before
      cases slot
      refine .inr ⟨fun g mem => ?_, before, rfl⟩
      exact of_decide_eq_false (List.findIdx?_eq_none_iff.mp first g mem)
    · cases slot

/-- An insertion can be reported exactly if the type is registered, or if every operator that the
handler lists again was claimed before. -/
theorem Sound.isSome_registerReporting (sound : r.Sound) (h : Handler) :
    (r.registerReporting h).isSome = true ↔ h.type ∈ r.types ∨
      ∀ (i : Nat) (op : Operator), h.operators[i]? = some op → op ∈ h.operators.take i →
        ∃ g ∈ r.handlers, op ∈ g.operators := by
  unfold registerReporting
  by_cases known : h.type ∈ r.types
  · simp [holdsType_iff.mpr known, known]
  simp only [holdsType_of_not_mem known, Bool.false_eq_true, if_false, Option.isSome_map,
    isSome_claimAllReporting, known, false_or]
  constructor
  · intro all i op listed before
    -- the operator has a slot by now, whoever gave it
    obtain ⟨owner, slot⟩ : ∃ owner, (r.claiming h i).slots.get? op = some owner := by
      rw [sound.get?_claiming, if_pos before]
      cases r.handlers.findIdx? (·.claims op) with
      | none => exact ⟨_, rfl⟩
      | some position => exact ⟨_, rfl⟩
    rcases sound.owner_claiming h slot with ⟨claimed, -⟩ | ⟨-, -, beyond⟩
    · exact claimed
    · exact absurd (all i op owner listed slot) (by omega)
  · intro all i op owner listed slot
    rcases sound.owner_claiming h slot with ⟨-, inside⟩ | ⟨unclaimed, before, -⟩
    · exact inside
    · obtain ⟨g, mem, claims⟩ := all i op listed before
      exact absurd claims (unclaimed g mem)

/-- A reported insertion is the insertion, and what it reports is where the operators of the handler
were routed. -/
theorem registerReporting_eq {h : Handler} {told : List (Operator × String)}
    {result : Bool × Registry} (done : r.registerReporting h = some (told, result)) :
    result = r.register h ∧
      told = if h.type ∈ r.types then []
        else h.operators.filterMap fun op => (r.resolve op).map fun g => (op, g.name) := by
  unfold registerReporting at done
  unfold register
  by_cases known : h.type ∈ r.types
  · simp only [holdsType_iff.mpr known, if_true] at done ⊢
    cases done
    exact ⟨rfl, (if_pos known).symm⟩
  · simp only [holdsType_of_not_mem known, Bool.false_eq_true, if_false] at done ⊢
    obtain ⟨⟨names, claimed⟩, all, same⟩ := Option.map_eq_some_iff.mp done
    cases same
    obtain ⟨rfl, rfl⟩ := claimAllReporting_eq all
    exact ⟨rfl, (if_neg known).symm⟩

/-- A handler that lists no operator twice can be inserted with reports. -/
theorem Sound.exists_registerReporting (sound : r.Sound) {h : Handler}
    (distinct : h.operators.Nodup) : ∃ told, r.registerReporting h = some (told, r.register h) := by
  have possible : (r.registerReporting h).isSome = true := by
    refine (sound.isSome_registerReporting h).mpr (.inr fun i op listed before => ?_)
    obtain ⟨j, inside, earlier⟩ := List.mem_take_iff_getElem.mp before
    obtain ⟨here, rfl⟩ := List.getElem?_eq_some_iff.mp listed
    obtain rfl : j = i := distinct.getElem_inj_iff.mp earlier
    omega
  obtain ⟨⟨told, result⟩, done⟩ := Option.isSome_iff_exists.mp possible
  obtain ⟨rfl, -⟩ := registerReporting_eq done
  exact ⟨told, done⟩

end Insertion

/-! ## 4. Discovery -/

/-- Reported insertions of entries are the insertions. -/
theorem registerAllReporting_eq {r : Registry} {es : List HandlerEntry}
    {told : List (Operator × String)} {result : Nat × Registry}
    (done : r.registerAllReporting es = some (told, result)) : result = r.registerAll es := by
  induction es generalizing r told result with
  | nil =>
    cases done
    rfl
  | cons e es ih =>
    obtain ⟨⟨first, isNew, next⟩, inserted, rest⟩ := Option.bind_eq_some_iff.mp done
    obtain ⟨⟨more, count, last⟩, others, all⟩ := Option.bind_eq_some_iff.mp rest
    cases all
    obtain ⟨here, -⟩ := registerReporting_eq inserted
    have later : (count, last) = next.registerAll es := ih others
    simp only [registerAll, ← here, ← later]

/-- Handlers that list no operator twice can be discovered with reports. -/
theorem Sound.exists_registerAllReporting {r : Registry} (sound : r.Sound) {es : List HandlerEntry}
    (distinct : ∀ e ∈ es, e.handler.operators.Nodup) :
    ∃ told, r.registerAllReporting es = some (told, r.registerAll es) := by
  induction es generalizing r with
  | nil => exact ⟨[], rfl⟩
  | cons e es ih =>
    obtain ⟨own, others⟩ := List.forall_mem_cons.mp distinct
    obtain ⟨told, inserted⟩ := sound.exists_registerReporting own
    obtain ⟨more, rest⟩ := ih (sound.register e.handler) others
    refine ⟨told ++ more, ?_⟩
    simp only [registerAllReporting, inserted, rest, Option.bind_eq_bind, Option.bind_some]
    rfl

end Registry
end Rulebook
