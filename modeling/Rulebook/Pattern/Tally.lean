/-
Rulebook.Pattern.Tally — counting the states of an automaton.

An automaton reads bytes and is laid out state by state, in the order of their
numbers.  Its size is that of its states and of what they refer to: a state
that reads one of several ranges of bytes holds a transition for each, and a
state that branches holds its targets.

A set of characters is laid out from the sequences of bytes that encode its
members.  States that would be equal are laid out once as long as they are
remembered.  The memory has a fixed number of places, and a state is put in the
place that its contents hash to, whatever was there before.
-/
import Std.Data.HashMap
import Rulebook.Character.Encoding

namespace Rulebook

/-! ## 1. Sizes -/

/-- How many states there are, and how many bytes they refer to. -/
structure Tally where
  states : Nat := 0
  extra : Nat := 0
deriving DecidableEq, Repr, Inhabited

namespace Tally

/-- The bytes of a state. -/
def stateSize : Nat := 32

/-- The bytes of a transition. -/
def transitionSize : Nat := 8

/-- The bytes of a target of a branching state. -/
def targetSize : Nat := 4

/-- The bytes of the automaton. -/
def bytes (t : Tally) : Nat := stateSize * t.states + t.extra

/-- The greatest size of an automaton in bytes. -/
def limit : Nat := 10 * 1024 * 1024

/-- The tally with further states and bytes. -/
def add (t : Tally) (states extra : Nat) : Tally := ⟨t.states + states, t.extra + extra⟩

/-- The tally itself, unless the automaton is too large. -/
def check (t : Tally) : Option Tally := if limit < t.bytes then none else some t

end Tally

/-! ## 2. Remembered states -/

/-- States by the places of the memory, with what they were laid out for. -/
abbrev Memory (κ : Type) := Std.HashMap Nat (κ × Nat)

namespace Memory

/-- The place, out of a number of them, that some numbers hash to. -/
def place (places : Nat) (numbers : List Nat) : Nat :=
  let hash := numbers.foldl (fun (h : UInt64) n => (h ^^^ n.toUInt64) * 1099511628211)
    14695981039346656037
  hash.toNat % places

/-- The state that a place holds, if it was laid out for the same. -/
def known? {κ : Type} [DecidableEq κ] (m : Memory κ) (place : Nat) (key : κ) : Option Nat :=
  match m[place]? with
  | some (known, state) => if known = key then some state else none
  | none => none

end Memory

/-- An automaton under construction, with the states that are remembered. -/
structure Draft (κ : Type) where
  tally : Tally
  memory : Memory κ := {}

namespace Draft

variable {κ : Type} [DecidableEq κ]

/-- The state for some contents: the remembered one, or else a new one of the given size. -/
def state (l : Draft κ) (place : Nat) (key : κ) (extra : Nat) : Nat × Draft κ :=
  match l.memory.known? place key with
  | some known => (known, l)
  | none =>
    let new := l.tally.states
    (new, ⟨l.tally.add 1 extra, l.memory.insert place (key, new)⟩)

end Draft

/-! ## 3. Sets read forwards -/

/-- A step from a state to another on a byte of a range. -/
structure Transition where
  range : ByteRange
  target : Nat
deriving DecidableEq, Repr

namespace Transition

/-- The numbers that the transition is hashed by. -/
def numbers (t : Transition) : List Nat := [t.range.first, t.range.last, t.target]

end Transition

/-- The place for a state with the given transitions. -/
def forwardPlace (transitions : List Transition) : Nat :=
  Memory.place 10000 (transitions.flatMap Transition.numbers)

/-- The state from which the sequences lead to the final one, and the automaton with it.  Sequences
that begin with the same range share a transition, and the states that they lead to come first. -/
def layForwards (final : Nat) : Nat → List (List ByteRange) → Draft (List Transition) →
    Nat × Draft (List Transition)
  | 0, _, l => (final, l)
  | depth + 1, sequences, l =>
    let groups := sequences.splitBy fun a b => a.head? == b.head?
    let step (group : List (List ByteRange)) (found : List Transition × Draft (List Transition)) :
        List Transition × Draft (List Transition) :=
      match group with
      | (range :: rest) :: _ =>
        let (target, l) :=
          if rest.isEmpty then (final, found.2)
          else layForwards final depth (group.map (List.drop 1)) found.2
        (⟨range, target⟩ :: found.1, l)
      | _ => found
    let (backwards, l) := groups.foldl (fun found group => step group found) ([], l)
    let transitions := backwards.reverse
    l.state (forwardPlace transitions) transitions (Tally.transitionSize * transitions.length)

/-- The tally with a set that is read forwards: a final state, and the states that lead to it. -/
def Tally.addForwards (t : Tally) (sequences : List (List ByteRange)) : Tally :=
  (layForwards t.states 4 sequences ⟨t.add 1 0, {}⟩).2.tally

/-! ## 4. Sets read backwards -/

/-- The place for a state that reads a range and goes on to a state. -/
def backwardPlace (target : Nat) (range : ByteRange) : Nat :=
  Memory.place 1000 [target, range.first, range.last]

/-- The automaton with a sequence that is read from its end: each range is read on the way to the
state of the range before it. -/
def layBackwards (final : Nat) (l : Draft (Nat × ByteRange)) (sequence : List ByteRange) :
    Draft (Nat × ByteRange) :=
  let step (reached : Nat × Draft (Nat × ByteRange)) (range : ByteRange) :=
    reached.2.state (backwardPlace reached.1 range) (reached.1, range) 0
  (sequence.foldl step (final, l)).2

/-- The tally with a set that is read backwards: a state that branches to every sequence, a final
state, and the states between them. -/
def Tally.addBackwards (t : Tally) (sequences : List (List ByteRange)) : Tally :=
  let laid := sequences.foldl (layBackwards (t.states + 1)) ⟨t.add 2 0, {}⟩
  laid.tally.add 0 (Tally.targetSize * sequences.length)

end Rulebook
