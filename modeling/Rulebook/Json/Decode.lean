/-
Rulebook.Json.Decode — reading values of the library's types from a JSON tree.

Every decoder either gives a value or nothing: what is wrong with a text that
cannot be read is not told.  An enumeration is written as the name of its case,
or as an object with that name as the only key and `null` under it.
-/
import Rulebook.Json.Reader

namespace Rulebook.Json.Tree

/-- Reads a truth value. -/
def bool? : Tree → Option Bool
  | .bool b => some b
  | _ => none

/-- Reads a text. -/
def text? : Tree → Option String
  | .string s => s
  | _ => none

/-- Reads a list of texts. -/
def texts? : Tree → Option (List String)
  | .array items => items.mapM text?
  | _ => none

/-- Reads an enumeration from the names of its cases. -/
def enumeration? {α : Type} (cases : List (String × α)) : Tree → Option α
  | .string (some name) => cases.lookup name
  | .object [(some name, .null)] => cases.lookup name
  | _ => none

/-- Reads the only member of the given name, or takes the default when there is none. -/
def member? {α : Type} (members : List (String × Tree)) (name : String) (default : α)
    (decode : Tree → Option α) : Option α :=
  match members.filter (·.1 == name) with
  | [] => some default
  | [m] => decode m.2
  | _ => none

/-- Reads the item at a position, or takes the default when the array ends before it. -/
def item? {α : Type} (items : List Tree) (position : Nat) (default : α)
    (decode : Tree → Option α) : Option α :=
  match items[position]? with
  | none => some default
  | some tree => decode tree

end Rulebook.Json.Tree

namespace Rulebook.Json

/-- Reads a whole JSON text. -/
def decode? {α : Type} (decode : Tree → Option α) (text : String) : Option α :=
  (read text).bind decode

end Rulebook.Json
