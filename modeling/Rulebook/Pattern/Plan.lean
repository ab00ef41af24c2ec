/-
Rulebook.Pattern.Plan — whether the automata of an expression are small enough.

An expression is matched by two automata: one reads forwards and remembers what
groups match, the other reads backwards.  Each is laid out after a plan, which
lists what is added in order, with repetitions written out.  An expression
whose plans exceed the limit is refused, unless it is matched by a search.
-/
import Rulebook.Pattern.Tally
import Rulebook.Pattern.Texts

namespace Rulebook

/-- In which direction an automaton reads. -/
inductive Direction
  | forwards
  | backwards
deriving DecidableEq, Repr

/-! ## 1. Plans -/

/-- What is added to an automaton. -/
inductive Plan
  /-- States that need no more than the given bytes together. -/
  | states (count extra : Nat)
  /-- A set of characters by the sequences of bytes that encode them. -/
  | set (sequences : List (List ByteRange))
  | both (a b : Plan)
  | copies (count : Nat) (a : Plan)
deriving DecidableEq, Repr

namespace Plan

/-- Takes a step a number of times, until it fails. -/
def iterate (step : Tally → Option Tally) : Nat → Tally → Option Tally
  | 0, t => some t
  | n + 1, t =>
    match step t with
    | some t => iterate step n t
    | none => none

/-- Adds what is planned, unless the automaton becomes too large. -/
def run (d : Direction) : Plan → Tally → Option Tally
  | .states count extra, t => (t.add count extra).check
  | .set sequences, t =>
    match d with
    | .forwards => (t.addForwards sequences).check
    | .backwards => (t.addBackwards sequences).check
  | .both a b, t => (a.run d t).bind (b.run d)
  | .copies count a, t => iterate (a.run d) count t

/-- The bytes for branching to a number of targets. -/
def targets (count : Nat) : Plan := .states 0 (Tally.targetSize * count)

end Plan

/-! ## 2. Choices between texts -/

/-- A point in a choice between texts: the bytes that may follow, each with what may follow it, the
latest first.  Bytes added after a text had ended here are kept apart from those before. -/
structure Fork where
  closed : List (List (Nat × List (List Nat))) := []
  current : List (Nat × List (List Nat)) := []

namespace Fork

/-- Adds what follows a byte, with the bytes in ascending order. -/
def insert (b : Nat) (rest : List Nat) :
    List (Nat × List (List Nat)) → List (Nat × List (List Nat))
  | [] => [(b, [rest])]
  | (c, rests) :: others =>
    if b = c then (c, rest :: rests) :: others
    else if b < c then (b, [rest]) :: (c, rests) :: others
    else (c, rests) :: insert b rest others

/-- The groups of bytes, in the order of the texts that end between them. -/
def groups (f : Fork) : List (List (Nat × List (List Nat))) := f.closed ++ [f.current]

/-- Whether no byte follows. -/
def isEnd (f : Fork) : Bool := f.groups.all List.isEmpty

/-- Adds a text. -/
def add (f : Fork) : List Nat → Fork
  | [] => if f.isEnd && !f.closed.isEmpty then f else { closed := f.groups, current := [] }
  | b :: rest => { f with current := insert b rest f.current }

/-- The point from which all the given texts go on. -/
def ofTexts (texts : List (List Nat)) : Fork := texts.foldl add {}

/-- The size of the states for a point: one for each group that is not empty, with its bytes as
transitions if there are several, and a branching one that leads to these and to the end. -/
def size (f : Fork) : Tally :=
  let full := f.groups.filter fun g => !g.isEmpty
  let read (t : Tally) (g : List (Nat × List (List Nat))) : Tally :=
    t.add 1 (if g.length = 1 then 0 else Tally.transitionSize * g.length)
  full.foldl read ⟨1, Tally.targetSize * (full.length + f.closed.length)⟩

/-- The size of the states for texts of a bounded length; a point where they all end needs none. -/
def total : Nat → List (List Nat) → Tally
  | 0, _ => {}
  | depth + 1, texts =>
    let fork := ofTexts texts
    if fork.isEnd then {}
    else
      fork.groups.flatten.foldl (fun t follow =>
        let inner := total depth follow.2.reverse
        t.add inner.states inner.extra) fork.size

end Fork

/-! ## 3. The plan of an expression -/

namespace Regex

/-- Whether the last state for an expression is one that branches. -/
def endsBranching (d : Direction) : Regex → Bool
  | .repeated a least none _ => 0 < least || a.isProper
  | .repeated a least (some most) _ => least == most && a.endsBranching d
  | .seq a b => if d = .forwards then b.endsBranching d else a.endsBranching d
  | .capture _ a => d = .backwards && a.endsBranching d
  | _ => false

/-- The number of targets for going on from an expression a number of times. -/
def links (d : Direction) (count : Nat) (a : Regex) : Nat := if a.endsBranching d then count else 0

/-- The plan for a set: ASCII characters are read in one state. -/
def planSet (s : CharSet) : Plan :=
  if s.isAscii then .states 2 (Tally.transitionSize * s.ranges.length)
  else .set (Encoding.sequences s)

/-- The plan for a choice between texts. -/
def planTexts (d : Direction) (texts : List (List Char)) : Plan :=
  let encoded := texts.map fun s =>
    if d = .forwards then Encoding.textBytes s else (Encoding.textBytes s).reverse
  let size := Fork.total ((encoded.map List.length).foldl max 0 + 1) encoded
  .states (size.states + 1) size.extra

/-- The plan with what closes a branch of a choice: the states where the choice begins and ends come
after the second branch. -/
def closeBranch (earlier : Nat) (targets : Nat) (p : Plan) : Plan :=
  if earlier = 0 then p
  else if earlier = 1 then .both p (.states 2 (Tally.targetSize * targets))
  else .both p (.states 0 (Tally.targetSize * targets))

/-- The plan of an expression.  `earlier` counts the branches that come before it in the choice of
which it is the last. -/
def planAfter (d : Direction) (earlier : Nat) : Regex → Plan
  | .either a b =>
    let first := .both (a.planAfter d 0) (Plan.targets (1 + a.links d 1))
    let branch := if earlier = 1 then .both first (.states 2 0) else first
    match if earlier = 0 then (Regex.either a b).texts? else none with
    | some texts => planTexts d texts
    | none => .both branch (b.planAfter d (earlier + 1))
  | .empty => closeBranch earlier 1 (.states 1 0)
  | .text s => closeBranch earlier 1 (.states (Encoding.textBytes s).length 0)
  | .one s => closeBranch earlier 1 (planSet s)
  | .look _ => closeBranch earlier 1 (.states 1 0)
  | .seq a b =>
    let p := a.planAfter d 0
    let q := b.planAfter d 0
    let linked :=
      if d = .forwards then .both p (.both q (Plan.targets (a.links d 1)))
      else .both q (.both p (Plan.targets (b.links d 1)))
    closeBranch earlier (1 + (Regex.seq a b).links d 1) linked
  | .capture n a =>
    let p := a.planAfter d 0
    let grouped :=
      if d = .forwards then
        .both (.states 1 0) (.both p (.states 1 (Tally.targetSize * a.links d 1)))
      else p
    closeBranch earlier (1 + (Regex.capture n a).links d 1) grouped
  | .repeated a least most isGreedy =>
    let p := a.planAfter d 0
    let ending := 1 + (Regex.repeated a least most isGreedy).links d 1
    closeBranch earlier ending <|
      match least, most with
      | 0, some 1 =>
        .both (.states 1 0) (.both p (.states 1 (Tally.targetSize * (2 + a.links d 1))))
      | 0, none =>
        if a.isProper then .both (.states 1 0) (.both p (Plan.targets (1 + a.links d 1)))
        else .both p (.states 3 (Tally.targetSize * (4 + a.links d 1)))
      | least, none =>
        .both (.copies least p) (.states 1 (Tally.targetSize * (1 + a.links d least)))
      | least, some most =>
        if least = most then .both (.copies least p) (Plan.targets (a.links d (least - 1)))
        else
          let start := if least = 0 then .states 1 0 else .copies least p
          let optional := .copies (most - least) (.both (.states 1 (Tally.targetSize * 2)) p)
          .both start (.both (.states 1 0) (.both optional (Plan.targets (a.links d most))))

/-- The plan of a whole automaton.  Unless a match can only begin where the reading begins, a loop
comes first that skips bytes; forwards, the match as a whole is remembered like a group. -/
def plan (d : Direction) (r : Regex) : Plan :=
  let fixed := match d with
    | .forwards => r.opensText
    | .backwards => r.closesText
  let start :=
    if fixed then .states 1 0
    else .states 3 (Tally.transitionSize + Tally.targetSize * 2)
  let matching := match d with
    | .forwards => .both (.states 1 0) (r.planAfter d 0)
    | .backwards => r.planAfter d 0
  let ends := match d with
    | .forwards => 2
    | .backwards => 1
  .both start (.both matching (.states ends (Tally.targetSize * r.links d 1)))

/-- Whether the expression needs no automata, or ones that stay within the limit. -/
def fits (r : Regex) : Bool :=
  r.isSearch ||
    (((r.plan .forwards).run .forwards {}).isSome && ((r.plan .backwards).run .backwards {}).isSome)

end Regex
end Rulebook
