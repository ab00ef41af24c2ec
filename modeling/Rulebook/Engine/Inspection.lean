/-
Rulebook.Engine.Inspection — how engines, rules and registries show themselves.
-/
import Rulebook.Character.Property
import Rulebook.Engine.Basic
import Rulebook.Text.Inspection

namespace Rulebook

/-- Whether a character shows between quotes as it is. -/
def showsItself (c : Char) : Bool :=
  if 0x20 ≤ c.toNat && c.toNat < 0x7F then true else !CharSet.shapeless.contains c.toNat

/-- A text between quotes. -/
def inspectText (s : String) : String := Text.inspectText showsItself s

/-- A truth value. -/
def inspectBool (b : Bool) : String := if b then "true" else "false"

/-- An operator with its name. -/
def Operator.inspect (op : Operator) : String := "OperatorKind(" ++ inspectText op.name ++ ")"

/-- The severity by its name. -/
def Severity.inspect : Severity → String
  | .error => "Error"
  | .warning => "Warning"

/-- The mode by its name. -/
def Mode.inspect : Mode → String
  | .all => "All"
  | .firstFailure => "FirstFailure"

/-- An entry of the list of discoverable handlers. -/
def HandlerEntry.inspect (module name : String) : String :=
  Text.inspectRecord "HandlerEntry" [("module", inspectText module), ("name", inspectText name)]
    false

/-- A registry with the number of its handlers and its operators in order. -/
def Registry.inspect (r : Registry) : String :=
  Text.inspectRecord "HandlerRegistry"
    [("count", toString r.size), ("kinds", Text.inspectList (r.operators.map Operator.inspect))]
    false

/-- A compiled rule. -/
def BoundRule.inspect (r : BoundRule) : String :=
  Text.inspectRecord "CompiledRule"
    [("property", inspectText r.property), ("kind", r.operator.inspect),
      ("message", inspectText r.message), ("severity", r.severity.inspect),
      ("predicate", inspectText "<function>")]
    false

/-- The settings of an engine. -/
def Settings.inspect (s : Settings) : String :=
  Text.inspectRecord "EngineConfig"
    [("builtin_handlers", inspectBool s.builtinHandlers),
      ("discover", Text.inspectList (s.discover.map inspectText)),
      ("evaluation", s.evaluation.inspect)]
    false

/-- The counters of an engine. -/
def Counters.inspect (s : Counters) : String :=
  Text.inspectRecord "EngineStats"
    [("bound_types", toString s.boundTypes), ("handlers", toString s.handlers),
      ("compiled_types", toString s.compiledTypes), ("compilations", toString s.compilations)]
    false

/-- An engine with its settings and its counters. -/
def Engine.inspect (g : Engine) : String :=
  Text.inspectRecord "RulesEngine"
    [("config", g.settings.inspect), ("stats", g.counters.inspect)]
    true

/-- A batch under validation. -/
def Validation.inspect (v : Validation) : String :=
  Text.inspectRecord "Validation"
    [("entity", inspectText v.rules.entity.name), ("rules", toString v.rules.rules.length),
      ("mode", v.mode.inspect)]
    true

end Rulebook
