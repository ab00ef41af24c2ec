/-
Rulebook.Value.Text — the two written forms of a value.

`Value.display` is what messages show: texts stand bare, and doubles are
written in place with as many zeros as that takes.  `Value.json` is what
serialised results hold: texts and times are quoted, doubles keep a fraction
and turn to an exponent when they grow long, and the doubles that are not
finite are `null`.
-/
import Rulebook.Number.Layout
import Rulebook.Json.Text
import Rulebook.Value.Basic

namespace Rulebook

/-- Doubles in messages: always in place, whole numbers without a fraction. -/
def displayLayout : Layout where
  tie := .up
  inPlace := fun _ => true
  wholeEnding := ""
  notANumber := "NaN"
  infinity := "inf"
  negativeInfinity := "-inf"

/-- Doubles in serialised data: in place from `0.00001` up to sixteen digits before the point. -/
def jsonLayout : Layout where
  tie := .even
  inPlace := fun e => -5 ≤ e && e ≤ 15
  wholeEnding := ".0"
  notANumber := "null"
  infinity := "null"
  negativeInfinity := "null"

namespace Value

/-- The text of a value in messages. -/
def display : Value → String
  | .null => "null"
  | .bool b => if b then "true" else "false"
  | .int n => toString n.toInt
  | .float x => displayLayout.render x
  | .text s => s
  | .date d => d.text
  | .dateTime t => t.localText ++ "+00:00"

/-- The text of a value in serialised data. -/
def json : Value → String
  | .null => "null"
  | .bool b => if b then "true" else "false"
  | .int n => toString n.toInt
  | .float x => jsonLayout.render x
  | .text s => Json.quoted s
  | .date d => Json.quoted d.text
  | .dateTime t => Json.quoted (t.localText ++ "Z")

end Value
end Rulebook
