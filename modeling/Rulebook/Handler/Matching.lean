/-
Rulebook.Handler.Matching — patterns are regular expressions.
-/
import Rulebook.Handler.Patterns
import Rulebook.Pattern

namespace Rulebook

/-- Texts are matched against regular expressions. -/
instance : Patterns where
  compile text :=
    match Pattern.compile text with
    | .ok r => .ok r.isMatch
    | .error fault => .error fault.message

end Rulebook
