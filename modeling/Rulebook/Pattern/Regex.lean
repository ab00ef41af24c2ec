/-
Rulebook.Pattern.Regex — regular expressions.

An expression tells which texts match.  It is kept in a plain form: a sequence
holds neither sequences on its left nor empty parts nor neighbouring texts, a
choice holds no choice on its left, and a set of one character is a text.
`Rulebook.Pattern.Plain` builds expressions of that form.
-/
import Rulebook.Character.Set

namespace Rulebook

/-! ## 1. Conditions on places -/

/-- Conditions that compare whether there is a word character before and after. -/
inductive WordLook
  | boundary
  | noBoundary
  | start
  | finish
  | startHalf
  | finishHalf
deriving DecidableEq, Repr

/-- Whether the condition holds. -/
def WordLook.holds : WordLook → Bool → Bool → Bool
  | .boundary, before, after => before != after
  | .noBoundary, before, after => before == after
  | .start, before, after => !before && after
  | .finish, before, after => before && !after
  | .startHalf, before, _ => !before
  | .finishHalf, _, after => !after

/-- A condition on a place in a text. -/
inductive Look
  | textStart
  | textEnd
  | lineStart
  | lineEnd
  /-- The start of a line, where lines may end in a carriage return with or without a feed. -/
  | returnLineStart
  | returnLineEnd
  | word (look : WordLook) (words : CharSet)
deriving DecidableEq, Repr

/-- Whether a condition holds between two characters, either of which may be missing. -/
def Look.holds (l : Look) (before after : Option Char) : Bool :=
  match l with
  | .textStart => before.isNone
  | .textEnd => after.isNone
  | .lineStart => before.isNone || before == some '\n'
  | .lineEnd => after.isNone || after == some '\n'
  | .returnLineStart =>
    before.isNone || before == some '\n' || (before == some '\r' && after != some '\n')
  | .returnLineEnd =>
    after.isNone || after == some '\r' || (after == some '\n' && before != some '\r')
  | .word look words =>
    let isWord (c : Option Char) := (c.map fun c => words.contains c.toNat).getD false
    look.holds (isWord before) (isWord after)

/-! ## 2. Expressions -/

/-- A regular expression. -/
inductive Regex
  /-- The empty text. -/
  | empty
  /-- A text of one or more characters. -/
  | text (chars : List Char)
  /-- One character of a set. -/
  | one (set : CharSet)
  /-- A place where a condition holds. -/
  | look (l : Look)
  | seq (a b : Regex)
  | either (a b : Regex)
  /-- At least `least` rounds, and at most `most` if that is given; a greedy repetition prefers more
  rounds to fewer. -/
  | repeated (a : Regex) (least : Nat) (most : Option Nat) (isGreedy : Bool)
  /-- A part whose match is remembered under a number. -/
  | capture (number : Nat) (a : Regex)
deriving DecidableEq, Repr

namespace Regex

/-- The parts of a sequence. -/
def parts : Regex → List Regex
  | .empty => []
  | .seq a b => a :: b.parts
  | r => [r]

/-- The branches of a choice. -/
def branches : Regex → List Regex
  | .either a b => a :: b.branches
  | r => [r]

/-- The number of nodes of the expression. -/
def nodes : Regex → Nat
  | .empty | .text _ | .one _ | .look _ => 1
  | .seq a b | .either a b => a.nodes + b.nodes + 1
  | .repeated a _ _ _ | .capture _ a => a.nodes + 1

/-! ## 3. What matches have in common -/

/-- The least number of characters of a match, unless a part of the expression matches nothing. -/
def minLength? : Regex → Option Nat
  | .empty => some 0
  | .text chars => some chars.length
  | .one set => if set.isEmpty then none else some 1
  | .look _ => some 0
  | .seq a b => do return (← a.minLength?) + (← b.minLength?)
  | .either a b => do return min (← a.minLength?) (← b.minLength?)
  | .repeated a least _ _ => do return (← a.minLength?) * least
  | .capture _ a => a.minLength?

/-- The greatest number of characters of a match, if there is one, unless a part of the expression
matches nothing. -/
def maxLength? : Regex → Option Nat
  | .empty => some 0
  | .text chars => some chars.length
  | .one set => if set.isEmpty then none else some 1
  | .look _ => some 0
  | .seq a b => do return (← a.maxLength?) + (← b.maxLength?)
  | .either a b => do return max (← a.maxLength?) (← b.maxLength?)
  | .repeated a _ most _ => do return (← a.maxLength?) * (← most)
  | .capture _ a => a.maxLength?

/-- Whether every match matches the empty text. -/
def isBlank (r : Regex) : Bool := r.maxLength? == some 0

/-- Whether every match has some character. -/
def isProper (r : Regex) : Bool := r.minLength?.any (0 < ·)

/-- Whether every match begins at the start of the text, as far as the leading conditions tell. -/
def opensText : Regex → Bool
  | .look l => l == .textStart
  | .seq a b => a.opensText || (a.isBlank && b.opensText)
  | .either a b => a.opensText && b.opensText
  | .repeated a least _ _ => 0 < least && a.opensText
  | .capture _ a => a.opensText
  | .empty | .text _ | .one _ => false

/-- Whether every match ends at the end of the text, as far as the trailing conditions tell. -/
def closesText : Regex → Bool
  | .look l => l == .textEnd
  | .seq a b => b.closesText || (b.isBlank && a.closesText)
  | .either a b => a.closesText && b.closesText
  | .repeated a least _ _ => 0 < least && a.closesText
  | .capture _ a => a.closesText
  | .empty | .text _ | .one _ => false

end Regex
end Rulebook
