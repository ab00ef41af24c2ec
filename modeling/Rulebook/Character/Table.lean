/-
Rulebook.Character.Table — the written form of character tables.

A table is a list of lines with numbers in base thirty-six, whose digits are
`0` to `9` and `a` to `z`.  A set is written as an alternation of gaps and
lengths: how many code points lie before the next range, and by how many its
last code point exceeds its first.
-/
import Rulebook.Character.Set

namespace Rulebook.Table

/-- The value of a digit in base thirty-six; other characters count as zero. -/
def digitValue (c : Char) : Nat :=
  if c.isDigit then c.toNat - '0'.toNat
  else if 'a' ≤ c ∧ c ≤ 'z' then c.toNat - 'a'.toNat + 10
  else 0

/-- The numbers of a text, which are ended by the separator; `current` is the one being read. -/
def numbersFrom (separator : Char) : List Char → Nat → List Nat
  | [], current => [current]
  | c :: rest, current =>
    if c = separator then current :: numbersFrom separator rest 0
    else numbersFrom separator rest (current * 36 + digitValue c)

/-- The numbers of a text; the empty text has none. -/
def numbers (separator : Char) (text : String) : List Nat :=
  if text.isEmpty then [] else numbersFrom separator text.toList 0

/-- The ranges that gaps and lengths describe, from a code point on. -/
def rangesFrom : Nat → List Nat → List (Nat × Nat)
  | start, gap :: extra :: rest =>
    (start + gap, start + gap + extra) :: rangesFrom (start + gap + extra + 1) rest
  | _, _ => []

/-- The set that the lines of a table describe together. -/
def charSet (lines : List String) : CharSet := ⟨rangesFrom 0 (lines.flatMap (numbers ' '))⟩

end Rulebook.Table
