/-
Rulebook.Proofs.Handler.OwnerSlots — slots while a handler is being inserted.

An insertion gives out the slot of the new handler, operator by operator, before the
handler stands there, and so slots may lead nowhere until it is done.  An operator that
has a slot already is left alone, and the handler that keeps it is to be named in a
report; it is looked up by the slot.  That lookup takes place while slots may lead
nowhere, and meets such a slot exactly if the new handler lists an operator twice that
nobody had before.  An insertion without reports looks nothing up and always ends well.

  §1 Slots     — that they lead to handlers.
  §2 Insertion — where they lead at every step, and after the last one.
-/
import Rulebook.Handler.Numeric
import Rulebook.Handler.Fixed
import Rulebook.Proofs.Handler.RegistryRuns

namespace Rulebook
namespace Registry

/-! ## 1. Slots -/

/-- Slots lead to handlers. -/
def SlotsLead (r : Registry) : Prop :=
  ∀ op owner, r.slots.get? op = some owner → owner < r.handlers.length

theorem Sound.slotsLead {r : Registry} (sound : r.Sound) : r.SlotsLead := by
  intro op owner slot
  rw [sound op] at slot
  exact (List.findIdx?_eq_some_iff_getElem.mp slot).1

end Registry

/-! ## 2. Insertion -/

/-- Let a handler be inserted into the registry after any run of registrations and discoveries.  At
every step the handlers are the old ones, and if the operator whose turn it is has a slot, then
either a handler claimed it before, and the slot leads to a handler, or the new one lists it a
second time, and the slot leads one past the last.  So the insertion can name the owners that it
finds exactly if every operator that is listed again was claimed before, or if the type of the
handler is registered; it then does what an insertion without reports does, and names the handlers
that the operators are routed to.  After an insertion all slots lead to handlers. -/
theorem slots_during_insertion (registrations : List Registration) (h : Handler) :
    let r := Registry.empty.run registrations
    (∀ i, (r.claiming h i).handlers = r.handlers ∧
      ∀ (op : Operator) (owner : Nat), h.operators[i]? = some op →
        (r.claiming h i).slots.get? op = some owner →
        (∃ g ∈ r.handlers, op ∈ g.operators) ∧ owner < (r.claiming h i).handlers.length ∨
          (∀ g ∈ r.handlers, op ∉ g.operators) ∧ op ∈ h.operators.take i ∧
            owner = (r.claiming h i).handlers.length) ∧
    ((r.registerReporting h).isSome = true ↔ h.type ∈ r.types ∨
      ∀ (i : Nat) (op : Operator), h.operators[i]? = some op → op ∈ h.operators.take i →
        ∃ g ∈ r.handlers, op ∈ g.operators) ∧
    (∀ told result, r.registerReporting h = some (told, result) → result = r.register h ∧
      told = if h.type ∈ r.types then []
        else h.operators.filterMap fun op => (r.resolve op).map fun g => (op, g.name)) ∧
    (r.register h).2.SlotsLead := by
  intro r
  have sound : r.Sound := (Registry.orderly_empty.run registrations).slots
  refine ⟨fun i => ⟨r.handlers_claiming h i, fun op owner _ slot => ?_⟩,
    sound.isSome_registerReporting h, fun _ _ => Registry.registerReporting_eq,
    (sound.register h).slotsLead⟩
  rw [r.handlers_claiming h i]
  exact sound.owner_claiming h slot

/-! ### Repetitions -/

/-- A registry with the handler of even numbers alone. -/
def evenOnly : List Registration := [.handler (.even "Even")]

/-- A handler that lists an operator of its own twice. -/
def twice : Handler := .fixed "Twice" [⟨"twice"⟩, ⟨"twice"⟩] false

/-- A handler that lists the operator of even numbers twice. -/
def evenTwice : Handler := .fixed "EvenTwice" [⟨"even"⟩, ⟨"even"⟩] true

/-- The owner of an operator that is claimed need not be a registered handler: when an operator is
listed for the second time, its owner is the handler that is still to be added. -/
theorem owner_not_registered_yet :
    ¬∀ (registrations : List Registration) (h : Handler) (i : Nat) (op : Operator) (owner : Nat),
      h.operators[i]? = some op →
      ((Registry.empty.run registrations).claiming h i).slots.get? op = some owner →
      owner < ((Registry.empty.run registrations).claiming h i).handlers.length := by
  intro all
  have less : 1 < 1 := all evenOnly twice 1 ⟨"twice"⟩ 1 rfl rfl
  exact absurd less (Nat.lt_irrefl 1)

/-- The second claim of an operator of one's own finds a slot that leads one past the last handler,
and cannot be reported; that of another's operator can. -/
theorem slots_during_insertion_repetitions :
    let r := Registry.empty.run evenOnly
    (twice.operators[1]? = some ⟨"twice"⟩ ∧ (r.claiming twice 1).slots.get? ⟨"twice"⟩ = some 1 ∧
      1 = (r.claiming twice 1).handlers.length) ∧
      (r.registerReporting twice).isSome = false ∧
      r.registerReporting evenTwice
        = some ([(⟨"even"⟩, "Even"), (⟨"even"⟩, "Even")], r.register evenTwice) := by
  intro r
  have listed : twice.operators[1]? = some ⟨"twice"⟩ := rfl
  have slot : (r.claiming twice 1).slots.get? ⟨"twice"⟩ = some 1 := rfl
  have unclaimed : ¬∃ g ∈ r.handlers, ⟨"twice"⟩ ∈ g.operators := by
    rintro ⟨g, mem, claims⟩
    obtain rfl := List.mem_singleton.mp mem
    exact absurd claims (by decide)
  obtain ⟨steps, possible, -, -⟩ := slots_during_insertion evenOnly twice
  refine ⟨⟨listed, slot, ?_⟩, ?_, ?_⟩
  · rcases (steps 1).2 ⟨"twice"⟩ 1 listed slot with ⟨claimed, -⟩ | ⟨-, -, beyond⟩
    · exact absurd claimed unclaimed
    · exact beyond
  · rw [Bool.eq_false_iff, Ne, possible]
    rintro (known | all)
    · exact absurd known (by decide)
    · exact unclaimed (all 1 ⟨"twice"⟩ listed (by decide))
  · obtain ⟨-, -, same, -⟩ := slots_during_insertion evenOnly evenTwice
    cases done : r.registerReporting evenTwice with
    | none => cases done
    | some reported =>
      obtain ⟨told, result⟩ := reported
      obtain ⟨rfl, rfl⟩ := same told result done
      rfl

end Rulebook
