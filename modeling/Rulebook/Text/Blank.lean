/-
Rulebook.Text.Blank — white space, and texts that hold nothing else.

The characters are those with the `White_Space` property: five controls and
the space, the next line and no-break spaces, and the spaces and separators
of the general punctuation and ideographic blocks.
-/

namespace Rulebook.Text

/-- Whether a character is white space. -/
def isBlankChar (c : Char) : Bool :=
  let n := c.toNat
  (9 ≤ n && n ≤ 13) || n == 0x20 || n == 0x85 || n == 0xA0 || n == 0x1680 ||
    (0x2000 ≤ n && n ≤ 0x200A) || n == 0x2028 || n == 0x2029 || n == 0x202F || n == 0x205F ||
    n == 0x3000

/-- Whether a text is empty or all white space. -/
def isBlank (s : String) : Bool := s.toList.all isBlankChar

/-- Every white space character of the ASCII range counts. -/
theorem isBlankChar_of_isWhitespace {c : Char} (h : c.isWhitespace = true) :
    isBlankChar c = true := by
  simp only [Char.isWhitespace, Bool.or_eq_true, decide_eq_true_eq] at h
  rcases h with ((h | h) | h) | h <;> subst h <;> decide

end Rulebook.Text
