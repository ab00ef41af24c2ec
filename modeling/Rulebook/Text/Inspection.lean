/-
Rulebook.Text.Inspection — texts for people who look into a running engine.

Records are written as their name and their fields, lists in brackets, and
texts between quotes with the characters escaped that would not show: quotes,
backslashes, controls, marks that attach to the character before them, and
whatever else has no shape of its own.
-/
import Rulebook.Json.Text

namespace Rulebook.Text

/-- A number in hexadecimal digits. -/
def hexText (n : Nat) : List Char := Nat.toDigits 16 n

/-- How one character is written between quotes; `shows` tells which characters have a shape. -/
def inspectChar (shows : Char → Bool) (c : Char) : List Char :=
  if c = '"' then ['\\', '"']
  else if c = '\\' then ['\\', '\\']
  else if c = '\x00' then ['\\', '0']
  else if c = '\t' then ['\\', 't']
  else if c = '\n' then ['\\', 'n']
  else if c = '\r' then ['\\', 'r']
  else if shows c then [c]
  else ['\\', 'u', '\x7b'] ++ hexText c.toNat ++ ['\x7d']

/-- A text between quotes. -/
def inspectText (shows : Char → Bool) (s : String) : String :=
  "\"" ++ String.ofList (s.toList.flatMap (inspectChar shows)) ++ "\""

/-- A list in brackets. -/
def inspectList (items : List String) : String := "[" ++ ", ".intercalate items ++ "]"

/-- A record with its fields; an open one hints at fields that are not shown. -/
def inspectRecord (name : String) (fields : List (String × String)) (isOpen : Bool) : String :=
  let shown := fields.map fun f => f.1 ++ ": " ++ f.2
  let all := if isOpen then shown ++ [".."] else shown
  name ++ " \x7b " ++ ", ".intercalate all ++ " \x7d"

end Rulebook.Text
