/-
Rulebook.Pattern.Track — matching expressions against texts.

An expression relates positions of a text: where a match starts to where it may
end.  Matching carries sets of positions through the expression.  A set is a
natural number whose bit `i` stands for position `i`, a character moves the
positions before its occurrences one further, and a condition on the place
keeps those positions where it holds.  A text matches when some position is
reached from some other, so that neither the order of alternatives nor greed
plays a part.
-/
import Rulebook.Pattern.Regex

namespace Rulebook

/-! ## 1. Expressions read against a text -/

/-- An expression whose character sets and conditions are replaced by sets of positions. -/
inductive Track
  | stay
  /-- Moves one further from the given positions. -/
  | move (places : Nat)
  /-- Keeps the given positions. -/
  | keep (places : Nat)
  | seq (a b : Track)
  | either (a b : Track)
  /-- As many as `least` rounds, and then up to `more` further ones. -/
  | repeated (a : Track) (least more : Nat)

/-- The bit of the first position. -/
def bit (b : Bool) : Nat := if b then 1 else 0

/-- The positions before the characters of a set. -/
def CharSet.places (s : CharSet) : List Char → Nat
  | [] => 0
  | c :: rest => bit (s.contains c.toNat) + 2 * s.places rest

/-- The positions where a condition holds, in a text that follows the character `before`. -/
def Look.places (l : Look) (before : Option Char) : List Char → Nat
  | [] => bit (l.holds before none)
  | c :: rest => bit (l.holds before (some c)) + 2 * l.places (some c) rest

/-- Reads an expression against a text.  Without an upper limit, as many further rounds are
allowed as the text has positions: a round that reaches no new position is the last. -/
def Regex.against (text : List Char) : Regex → Track
  | .empty => .stay
  | .text chars =>
    chars.foldr (fun c after => .seq (.move ((CharSet.single c.toNat).places text)) after) .stay
  | .one set => .move (set.places text)
  | .look l => .keep (l.places none text)
  | .seq a b => .seq (a.against text) (b.against text)
  | .either a b => .either (a.against text) (b.against text)
  | .repeated a least none _ => .repeated (a.against text) least (text.length + 1)
  | .repeated a least (some most) _ => .repeated (a.against text) least (most - least)
  | .capture _ a => a.against text

/-! ## 2. Reaching positions -/

namespace Track

/-- Exactly `n` rounds; once a round changes nothing, no later one does. -/
def exactly (round : Nat → Nat) : Nat → Nat → Nat
  | 0, s => s
  | n + 1, s =>
    let next := round s
    if next = s then s else exactly round n next

/-- Up to `n` rounds, with the positions of all rounds together. -/
def upTo (round : Nat → Nat) : Nat → Nat → Nat
  | 0, s => s
  | n + 1, s =>
    let next := s ||| round s
    if next = s then s else upTo round n next

/-- The positions reached from the given ones. -/
def reach : Track → Nat → Nat
  | .stay, s => s
  | .move places, s => 2 * (s &&& places)
  | .keep places, s => s &&& places
  | .seq a b, s => b.reach (a.reach s)
  | .either a b, s => a.reach s ||| b.reach s
  | .repeated a least more, s => upTo a.reach more (exactly a.reach least s)

end Track

/-- Every position in a text. -/
def everyPlace : List Char → Nat
  | [] => 1
  | _ :: rest => 1 + 2 * everyPlace rest

/-- Whether some part of the text matches: a match may start at every position. -/
def Regex.isMatch (r : Regex) (text : String) : Bool :=
  let chars := text.toList
  (r.against chars).reach (everyPlace chars) != 0

end Rulebook
