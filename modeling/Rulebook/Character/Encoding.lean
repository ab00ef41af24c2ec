/-
Rulebook.Character.Encoding — characters as bytes.

A character takes one to four bytes of UTF-8.  A range of characters is cut into
pieces, from the least character on, so that in each piece every byte runs
through a range of its own whatever the other bytes are.
-/
import Rulebook.Character.Set

namespace Rulebook

/-- A range of bytes, ends included. -/
structure ByteRange where
  first : Nat
  last : Nat
deriving DecidableEq, Repr, Inhabited

namespace Encoding

/-- The bytes of a character. -/
def bytes (c : Nat) : List Nat :=
  if c < 0x80 then [c]
  else if c < 0x800 then [0xC0 + c / 0x40, 0x80 + c % 0x40]
  else if c < 0x10000 then [0xE0 + c / 0x1000, 0x80 + c / 0x40 % 0x40, 0x80 + c % 0x40]
  else [0xF0 + c / 0x40000, 0x80 + c / 0x1000 % 0x40, 0x80 + c / 0x40 % 0x40, 0x80 + c % 0x40]

/-- The bytes of a text. -/
def textBytes (chars : List Char) : List Nat := chars.flatMap fun c => bytes c.toNat

/-- Where a range that crosses the end of a block of characters is cut: after an incomplete block
at its start, or else before an incomplete block at its end. -/
def blockCut? (a b width : Nat) : Option Nat :=
  if a / width = b / width then none
  else if a % width ≠ 0 then some ((a / width + 1) * width)
  else if b % width ≠ width - 1 then some (b / width * width)
  else none

/-- The first character of the second part, if a range has to be cut: where characters need one
byte more, or where the blocks of characters with the same leading bytes begin and end. -/
def cut? (a b : Nat) : Option Nat :=
  match [0x80, 0x800, 0x10000].find? fun m => a < m && m ≤ b with
  | some m => some m
  | none => if b < 0x80 then none else [0x40, 0x1000, 0x40000].findSome? (blockCut? a b)

/-- The pieces of a range, in ascending order. -/
def pieces (a b : Nat) : List (Nat × Nat) :=
  match cut? a b with
  | none => [(a, b)]
  | some m => if a < m ∧ m ≤ b then pieces a (m - 1) ++ pieces m b else [(a, b)]
termination_by b - a
decreasing_by all_goals omega

/-- The parts of a range below and above the halves of surrogate pairs, which are no characters. -/
def aroundSurrogates (a b : Nat) : List (Nat × Nat) :=
  if b < 0xD800 || 0xDFFF < a then [(a, b)]
  else (if a < 0xD800 then [(a, 0xD7FF)] else []) ++ (if 0xDFFF < b then [(0xE000, b)] else [])

/-- The ranges that the bytes of a piece run through. -/
def byteRanges (piece : Nat × Nat) : List ByteRange :=
  List.zipWith ByteRange.mk (bytes piece.1) (bytes piece.2)

/-- The sequences of byte ranges of a set, in ascending order. -/
def sequences (s : CharSet) : List (List ByteRange) :=
  s.ranges.flatMap fun r =>
    (aroundSurrogates r.1 r.2).flatMap fun part => (pieces part.1 part.2).map byteRanges

end Encoding
end Rulebook
