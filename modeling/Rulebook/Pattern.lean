/-
Rulebook.Pattern — compiling the text of a pattern to a regular expression.

A pattern is read, given its meaning, and measured: what would take more room
than the limit is refused.
-/
import Rulebook.Pattern.Meaning
import Rulebook.Pattern.Plan
import Rulebook.Pattern.Reader
import Rulebook.Pattern.Track

namespace Rulebook.Pattern

/-- Refuses what is too big. -/
def checkSize (r : Regex) : Except Fault Regex :=
  if r.fits then .ok r else .error (.tooBig Tally.limit)

/-- The regular expression that a text stands for. -/
def compile (text : String) : Except Fault Regex := do
  let e ← Expr.read text
  let (alternatives, _) ← e.meaning {}
  checkSize alternatives.regex

end Rulebook.Pattern
