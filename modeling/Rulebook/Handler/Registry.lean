/-
Rulebook.Handler.Registry — which handler an operator is routed to.

Handlers are held in the order in which they were registered, each type once.
Every operator has a slot that names the position of its handler; the first
handler that claims an operator keeps it.

A registration may report the operators that other handlers keep.  The reports
name those handlers, and so are the only place where a slot is followed while
handlers are still being added.
-/
import Rulebook.Handler.Basic
import Rulebook.FiniteMap

namespace Rulebook

/-- The registered handlers and the slots of their operators. -/
structure Registry where
  handlers : List Handler := []
  slots : FiniteMap Operator Nat := ∅

namespace Registry

/-- The registry without handlers. -/
def empty : Registry := {}

/-- Whether a handler of the given type is registered. -/
def holdsType (r : Registry) (type : TypeId) : Bool :=
  r.handlers.any fun h => h.type == type

/-- Gives an operator the slot `position`; an operator that has a slot is passed over. -/
def claim (position : Nat) (r : Registry) (op : Operator) : Registry :=
  match r.slots.get? op with
  | some _ => r
  | none => { r with slots := r.slots.insert op position }

/-- Registers a handler: its operators are claimed one by one for the position that the handler
takes at the end.  A handler whose type is registered is turned away. -/
def register (r : Registry) (h : Handler) : Bool × Registry :=
  if r.holdsType h.type then (false, r)
  else
    let claimed := h.operators.foldl (claim r.handlers.length) r
    (true, { claimed with handlers := claimed.handlers ++ [h] })

/-- Claims an operator; one that has a slot is reported, with the name of the handler there.  There
is no result where the slot leads to no handler. -/
def claimReporting (position : Nat) (r : Registry) (op : Operator) :
    Option (List (Operator × String) × Registry) :=
  match r.slots.get? op with
  | some owner => r.handlers[owner]?.map fun h => ([(op, h.name)], r)
  | none => some ([], { r with slots := r.slots.insert op position })

/-- Claims operators one by one, and reports those that have slots. -/
def claimAllReporting (position : Nat) (r : Registry) :
    List Operator → Option (List (Operator × String) × Registry)
  | [] => some ([], r)
  | op :: ops => do
    let (told, next) ← r.claimReporting position op
    let (more, last) ← next.claimAllReporting position ops
    return (told ++ more, last)

/-- Registers a handler, and reports the operators that others keep. -/
def registerReporting (r : Registry) (h : Handler) :
    Option (List (Operator × String) × Bool × Registry) :=
  if r.holdsType h.type then some ([], false, r)
  else (r.claimAllReporting r.handlers.length h.operators).map fun (told, claimed) =>
    (told, true, { claimed with handlers := claimed.handlers ++ [h] })

/-- The handler that an operator is routed to. -/
def resolve (r : Registry) (op : Operator) : Option Handler :=
  (r.slots.get? op).bind fun position => r.handlers[position]?

/-- Whether some handler claims the operator. -/
def supports (r : Registry) (op : Operator) : Bool := r.slots.contains op

/-- All claimed operators in order. -/
def operators (r : Registry) : List Operator := Operator.sorted r.slots.keys

/-- The number of handlers. -/
def size (r : Registry) : Nat := r.handlers.length

end Registry
end Rulebook
