/-
Rulebook.Pattern.Plain — building expressions in plain form.

What always matches the same texts is written in one way.  Sequences inside
sequences and choices inside choices are spread out, neighbouring texts are put
together, a choice between single characters or sets is a set, and what all
branches of a choice begin with is taken out of it.
-/
import Rulebook.Pattern.Regex

namespace Rulebook.Regex

/-! ## 1. Sets and sequences -/

/-- The expression of a set: a text if it has one member. -/
def ofSet (s : CharSet) : Regex :=
  let set := s.trimmed
  match set.ranges with
  | [(a, b)] => if a = b then .text [Char.ofNat a] else .one set
  | _ => .one set

/-- Puts a part before others, joined with the first of them if both are texts. -/
def consPart (part : Regex) (others : List Regex) : List Regex :=
  match part, others with
  | .text s, .text t :: rest => .text (s ++ t) :: rest
  | part, others => part :: others

/-- The sequence of parts that are neither empty nor sequences. -/
def ofParts : List Regex → Regex
  | [] => .empty
  | [part] => part
  | part :: rest => .seq part (ofParts rest)

/-- The sequence of expressions. -/
def sequence (items : List Regex) : Regex := ofParts ((items.flatMap parts).foldr consPart [])

/-! ## 2. Repetitions -/

/-- A repetition.  What only ever matches the empty text needs at most one round. -/
def rounds (a : Regex) (least : Nat) (most : Option Nat) (isGreedy : Bool) : Regex :=
  let (least, most) :=
    if a.isBlank then (min least 1, some (min (most.getD 1) 1)) else (least, most)
  if least = 0 ∧ most = some 0 then .empty
  else if least = 1 ∧ most = some 1 then a
  else .repeated a least most isGreedy

/-! ## 3. Choices -/

/-- The character of a text of one character. -/
def character? : Regex → Option Nat
  | .text [c] => some c.toNat
  | _ => none

/-- The set of an expression for one character of a set. -/
def set? : Regex → Option CharSet
  | .one set => some set
  | _ => none

/-- The set of a choice in which every branch is one character, or every branch is a set. -/
def setOf? (branches : List Regex) : Option CharSet :=
  match branches.mapM character? with
  | some codes => some (.ofCodes codes)
  | none => (branches.mapM set?).map CharSet.unions

/-- Whether an expression is a sequence of at least two parts. -/
def isSequence : Regex → Bool
  | .seq _ _ => true
  | _ => false

/-- The parts that two sequences begin with. -/
def sharedParts : List Regex → List Regex → List Regex
  | a :: as, b :: bs => if a = b then a :: sharedParts as bs else []
  | _, _ => []

/-- The parts that all branches of a choice begin with, if all of them are sequences. -/
def commonParts : List Regex → List Regex
  | [] => []
  | first :: others =>
    if (first :: others).all isSequence then
      others.foldl (fun shared r => sharedParts shared r.parts) first.parts
    else []

/-- The choice between branches that are no choices themselves. -/
def ofBranches : List Regex → Regex
  | [] => .one .empty
  | [branch] => branch
  | branch :: rest => .either branch (ofBranches rest)

/-- The choice between expressions.  The budget bounds how often parts are taken out of it, which
leaves fewer nodes each time. -/
def choiceWithin : Nat → List Regex → Regex
  | 0, items => ofBranches (items.flatMap branches)
  | budget + 1, items =>
    match items.flatMap branches with
    | [] => .one .empty
    | [branch] => branch
    | all =>
      match setOf? all with
      | some set => ofSet set
      | none =>
        match commonParts all with
        | [] => ofBranches all
        | shared =>
          let remainders := all.map fun r => ofParts (r.parts.drop shared.length)
          sequence (shared ++ [choiceWithin budget remainders])

/-- The choice between expressions. -/
def choice (items : List Regex) : Regex :=
  choiceWithin (items.foldl (fun n r => n + r.nodes) 1) items

end Rulebook.Regex
