/-
Rulebook.Proofs.Handler.RegistryTheorems — an operator is routed to the first
registered handler that claims it.

The registry keeps a slot for every claimed operator.  `Registry.Sound` says
what the slots amount to: the slot of an operator is the position of the first
handler that claims it.  Registering keeps this, whatever the operators of the
new handler are, so a registry can be thought of as its list of handlers.

  §1 Slots        — soundness, and where it routes an operator.
  §2 Registering  — soundness is kept; handlers are only ever added at the end.
  §3 Discovery    — the same for all handlers found in modules.
-/
import Rulebook.Handler.Discovery

namespace Rulebook

/-! ## 1. Slots -/

/-- Whether the handler claims the operator. -/
def Handler.claims (op : Operator) (h : Handler) : Bool := op ∈ h.operators

namespace Registry

/-- Every operator has the position of the first handler that claims it as its slot. -/
def Sound (r : Registry) : Prop := ∀ op, r.slots.get? op = r.handlers.findIdx? (·.claims op)

theorem sound_empty : Registry.empty.Sound := fun _ => rfl

/-- An operator is routed to the first handler that claims it. -/
theorem Sound.resolve_eq {r : Registry} (sound : r.Sound) (op : Operator) :
    r.resolve op = r.handlers.find? (·.claims op) := by
  rw [resolve, sound op, List.find?_eq_bind_findIdx?_getElem?]

/-- Operators are routed to registered handlers only. -/
theorem mem_of_resolve {r : Registry} {op : Operator} {h : Handler}
    (routed : r.resolve op = some h) : h ∈ r.handlers := by
  obtain ⟨position, _, found⟩ := Option.bind_eq_some_iff.mp routed
  exact List.mem_of_getElem? found

/-! ## 2. Registering -/

/-- The types of the registered handlers, in order. -/
def types (r : Registry) : List TypeId := r.handlers.map (·.type)

theorem holdsType_iff {r : Registry} {type : TypeId} :
    r.holdsType type = true ↔ type ∈ r.types := by
  simp [holdsType, types]

theorem holdsType_of_not_mem {r : Registry} {type : TypeId} (new : type ∉ r.types) :
    r.holdsType type = false :=
  Bool.eq_false_iff.mpr (mt holdsType_iff.mp new)

@[simp] theorem handlers_claim (position : Nat) (r : Registry) (op : Operator) :
    (r.claim position op).handlers = r.handlers := by
  unfold claim
  split <;> rfl

/-- A claim gives the position to an operator that had no slot, and changes nothing else. -/
theorem get?_claim (position : Nat) (r : Registry) (first op : Operator) :
    (r.claim position first).slots.get? op =
      (r.slots.get? op).or (if op = first then some position else none) := by
  unfold claim
  by_cases same : op = first
  · subst same
    cases slot : r.slots.get? op <;> simp [slot, FiniteMap.get?_insert]
  · cases r.slots.get? first <;> simp [same, FiniteMap.get?_insert]

/-- Claiming operators leaves the handlers as they are. -/
theorem handlers_claimAll (position : Nat) (ops : List Operator) (r : Registry) :
    (ops.foldl (claim position) r).handlers = r.handlers := by
  induction ops generalizing r with
  | nil => rfl
  | cons op ops ih => exact (ih (r.claim position op)).trans (r.handlers_claim position op)

/-- Claiming operators gives the position to those that had no slot. -/
theorem get?_claimAll (position : Nat) (ops : List Operator) (r : Registry) (op : Operator) :
    (ops.foldl (claim position) r).slots.get? op =
      (r.slots.get? op).or (if op ∈ ops then some position else none) := by
  induction ops generalizing r with
  | nil => simp
  | cons first ops ih =>
    rw [List.foldl_cons, ih, get?_claim]
    by_cases same : op = first
    · subst same
      cases r.slots.get? op <;> simp
    · simp [same]

/-- The list of handlers after one more has been registered. -/
def extended (handlers : List Handler) (h : Handler) : List Handler :=
  if handlers.any fun other => other.type == h.type then handlers else handlers ++ [h]

theorem prefix_extended (handlers : List Handler) (h : Handler) :
    handlers <+: extended handlers h := by
  unfold extended
  split
  · exact List.prefix_rfl
  · exact List.prefix_append _ _

theorem handlers_register (r : Registry) (h : Handler) :
    (r.register h).2.handlers = extended r.handlers h := by
  unfold register holdsType extended
  split
  · rfl
  · simp only [handlers_claimAll]

/-- Registering reports whether the list of handlers has grown. -/
theorem length_register (r : Registry) (h : Handler) :
    (r.register h).2.handlers.length
      = r.handlers.length + (if (r.register h).1 then 1 else 0) := by
  rw [handlers_register]
  unfold register holdsType extended
  split <;> simp

/-- Registering keeps the slots sound, also when operators are claimed already or listed twice. -/
theorem Sound.register {r : Registry} (sound : r.Sound) (h : Handler) : (r.register h).2.Sound := by
  unfold Registry.register
  split
  · exact sound
  · intro op
    -- the new handler stands last, and gets only operators that no handler before it claims
    simp only [get?_claimAll, handlers_claimAll, List.findIdx?_append, sound op]
    by_cases claimed : op ∈ h.operators <;> simp [Handler.claims, claimed]

/-! ## 3. Discovery -/

/-- The count of new handlers is the number by which the list of handlers grows. -/
theorem registerAll_count (r : Registry) (es : List HandlerEntry) :
    (r.registerAll es).2.handlers.length = r.handlers.length + (r.registerAll es).1 := by
  induction es generalizing r with
  | nil => rfl
  | cons e es ih =>
    have rest := ih (r.register e.handler).2
    rw [length_register, Nat.add_assoc] at rest
    exact rest

theorem Sound.registerAll {r : Registry} (sound : r.Sound) (es : List HandlerEntry) :
    (r.registerAll es).2.Sound := by
  induction es generalizing r with
  | nil => exact sound
  | cons e es ih => exact ih (sound.register e.handler)

end Registry
end Rulebook
