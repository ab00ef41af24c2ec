/-
Rulebook.Report — what validating one entity says about it.

A report holds the entity's key and its failed rules in declaration order.  An
entity without failures is valid, and a report is made for it all the same.
-/
import Rulebook.Rule

namespace Rulebook

/-- A failed rule. -/
structure Failure where
  message : String
  severity : Severity
deriving DecidableEq, Repr

/-- The outcome of validating one entity. -/
structure Report where
  /-- The entity's key, if there is one and it is present. -/
  key : Option Value := none
  /-- The failed rules in order. -/
  failures : List Failure := []
deriving DecidableEq, Repr

namespace Report

/-- Appends a failure. -/
def add (r : Report) (f : Failure) : Report := { r with failures := r.failures ++ [f] }

/-- Whether no rule failed. -/
def isValid (r : Report) : Bool := r.failures.isEmpty

/-- The failures of error severity. -/
def errors (r : Report) : List Failure := r.failures.filter (·.severity = .error)

/-- The failures of warning severity. -/
def warnings (r : Report) : List Failure := r.failures.filter (·.severity = .warning)

/-- Whether some failure has error severity. -/
def hasErrors (r : Report) : Bool := r.failures.any (·.severity = .error)

/-- The report in serialised data. -/
def json (r : Report) : String :=
  let failure (f : Failure) :=
    Json.object [("message", Json.quoted f.message), ("severity", f.severity.json)]
  Json.object [("key", (r.key.map Value.json).getD "null"),
    ("failures", Json.array (r.failures.map failure))]

end Report

end Rulebook
