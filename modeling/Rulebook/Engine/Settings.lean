/-
Rulebook.Engine.Settings — how an engine is set up, and reading that from JSON.

In JSON the settings are an object whose missing members take their defaults
and whose unknown members are passed over, or an array of the same values by
position.
-/
import Rulebook.Evaluation
import Rulebook.Json.Decode

namespace Rulebook

/-- How an engine is set up. -/
structure Settings where
  /-- Whether the standard handlers are registered at the start. -/
  builtinHandlers : Bool := true
  /-- Further modules whose handlers are registered at the start. -/
  discover : List String := []
  /-- How many rules run for one entity. -/
  evaluation : Mode := .all
deriving DecidableEq, Repr, Inhabited

namespace Settings

/-! ## Setting -/

/-- Switches the standard handlers on or off. -/
def withBuiltinHandlers (s : Settings) (on : Bool) : Settings :=
  { s with builtinHandlers := on }

/-- Adds modules to discover. -/
def withDiscover (s : Settings) (modules : List String) : Settings :=
  { s with discover := s.discover ++ modules }

/-- Sets the evaluation mode. -/
def withEvaluation (s : Settings) (mode : Mode) : Settings :=
  { s with evaluation := mode }

/-! ## Reading -/

/-- The settings that a tree spells out, by member name or by position. -/
def ofTree? : Json.Tree → Option Settings
  | .object members => do
    let named ← members.mapM fun (key, tree) => key.map (·, tree)
    let builtinHandlers ← Json.Tree.member? named "builtin_handlers" true Json.Tree.bool?
    let discover ← Json.Tree.member? named "discover" [] Json.Tree.texts?
    let evaluation ← Json.Tree.member? named "evaluation" .all Mode.ofTree?
    return { builtinHandlers, discover, evaluation }
  | .array items => do
    let builtinHandlers ← Json.Tree.item? items 0 true Json.Tree.bool?
    let discover ← Json.Tree.item? items 1 [] Json.Tree.texts?
    let evaluation ← Json.Tree.item? items 2 .all Mode.ofTree?
    if items.length ≤ 3 then some { builtinHandlers, discover, evaluation } else none
  | _ => none

/-- Reads settings from JSON text. -/
def ofJson? : String → Option Settings := Json.decode? ofTree?

end Settings
end Rulebook
