/-
Rulebook.Character.Set — sets of characters as lists of ranges.

A set lists ranges of code points, ends included, in ascending order and with
gaps between them.  Every operation starts from that form and restores it, and
membership reads off the ranges.
-/

namespace Rulebook

/-- A set of code points. -/
structure CharSet where
  ranges : List (Nat × Nat)
deriving DecidableEq, Repr, Inhabited

namespace CharSet

/-- The greatest code point. -/
def maxCode : Nat := 0x10FFFF

/-- No character. -/
def empty : CharSet := ⟨[]⟩

/-- Every character. -/
def full : CharSet := ⟨[(0, maxCode)]⟩

/-- Whether a code point is in the set. -/
def contains (s : CharSet) (c : Nat) : Bool := s.ranges.any fun r => r.1 ≤ c && c ≤ r.2

/-- Whether no code point is in the set. -/
def isEmpty (s : CharSet) : Bool := s.ranges.isEmpty

/-- Whether all members are ASCII characters. -/
def isAscii (s : CharSet) : Bool := s.ranges.all fun r => r.2 ≤ 0x7F

/-- Joins ranges that overlap or touch, in a list ascending by first ends. -/
def join : List (Nat × Nat) → List (Nat × Nat)
  | [] => []
  | [r] => [r]
  | (a, b) :: (c, d) :: rest =>
    if c ≤ b + 1 then join ((a, max b d) :: rest) else (a, b) :: join ((c, d) :: rest)
termination_by rs => rs.length

/-- The set of the given ranges, which may come in any order and overlap. -/
def ofRanges (ranges : List (Nat × Nat)) : CharSet :=
  ⟨join (ranges.mergeSort fun a b => a.1 ≤ b.1)⟩

/-- Whether a code point is one half of a surrogate pair, and so no character. -/
def isSurrogate (c : Nat) : Bool := 0xD800 ≤ c && c ≤ 0xDFFF

/-- The set with ranges that begin and end at characters. -/
def trimmed (s : CharSet) : CharSet :=
  ⟨(s.ranges.map fun r =>
    (if isSurrogate r.1 then 0xE000 else r.1, if isSurrogate r.2 then 0xD7FF else r.2)).filter
      fun r => r.1 ≤ r.2⟩

/-- The set of one character. -/
def single (c : Nat) : CharSet := ⟨[(c, c)]⟩

/-- The set of the given characters. -/
def ofCodes (codes : List Nat) : CharSet := ofRanges (codes.map fun c => (c, c))

/-- What is in either set. -/
def union (s t : CharSet) : CharSet := ofRanges (s.ranges ++ t.ranges)

/-- The gaps of ascending ranges, from a code point on. -/
def gaps : Nat → List (Nat × Nat) → List (Nat × Nat)
  | start, [] => if start ≤ maxCode then [(start, maxCode)] else []
  | start, (a, b) :: rest =>
    if start < a then (start, a - 1) :: gaps (b + 1) rest else gaps (b + 1) rest

/-- What is not in the set. -/
def complement (s : CharSet) : CharSet := ⟨gaps 0 s.ranges⟩

/-- What is in both sets. -/
def inter (s t : CharSet) : CharSet := (s.complement.union t.complement).complement

/-- What is in the first set only. -/
def diff (s t : CharSet) : CharSet := s.inter t.complement

/-- What is in exactly one of the sets. -/
def symmDiff (s t : CharSet) : CharSet := (s.union t).diff (s.inter t)

/-- What is in one of the sets. -/
def unions (sets : List CharSet) : CharSet := ofRanges (sets.flatMap (·.ranges))

end CharSet
end Rulebook
