/-
Rulebook.Character.Property — finding sets of characters by the names of properties.

A name may be that of a binary property, of a general category or of a script;
a name with a value asks for one category, script, script extension, age or
class of segmentation.  Names are compared without regard to case, blanks,
hyphens, underscores and a leading `is`.
-/
import Rulebook.Character.Age
import Rulebook.Character.Binary
import Rulebook.Character.Category
import Rulebook.Character.Recent
import Rulebook.Character.Script
import Rulebook.Character.Segmentation

namespace Rulebook

/-- What a set of characters is asked for by. -/
inductive PropertyQuery
  | named (name : String)
  | valued (name value : String)
deriving DecidableEq, Repr

namespace PropertyQuery

/-! ## 1. Names -/

/-- A name without what does not count in comparisons.  A leading `is` counts where it is all
that tells `isc` from `c`. -/
def normalize (name : String) : String :=
  let chars := name.toList
  let (hasIs, body) := match chars with
    | a :: b :: rest =>
      if (a = 'i' || a = 'I') && (b = 's' || b = 'S') then (true, rest) else (false, chars)
    | _ => (false, chars)
  let kept := body.filter fun c => c != ' ' && c != '_' && c != '-' && c.toNat ≤ 0x7F
  let lower := kept.map Char.toLower
  if hasIs && lower == ['c'] then "isc" else String.ofList lower

/-- Whether one of the names is the normalized one. -/
def isNamed (normal : String) (names : List String) : Bool :=
  names.any fun name => normalize name == normal

/-! ## 2. Sets by name -/

/-- The characters of the row of a table that has the name. -/
def row? (table : List (List String × List String)) (normal : String) : Option CharSet :=
  (table.find? fun row => isNamed normal row.1).map fun row => Table.charSet row.2

/-- The characters of a binary property. -/
def binary? (normal : String) : Option CharSet := row? Binary.table normal

/-- The characters of a general category, of a group of categories, or of one of the sets that
are asked for in the same way: all characters, the assigned ones, and ASCII. -/
def category? (normal : String) : Option CharSet :=
  if normal = "any" then some .full
  else if normal = "assigned" then some Category.unassigned.complement
  else if normal = "ascii" then some ⟨[(0, 0x7F)]⟩
  else if isNamed normal Category.unassignedNames then some Category.unassigned
  else match Category.groups.find? fun row => isNamed normal row.1 with
    | some row => some (Category.anyOf row.2)
    | none => row? Category.table normal

/-- A script. -/
def script? (normal : String) : Option Script :=
  Script.table.find? fun s => isNamed normal s.names

/-- The characters that a query asks for; none if it names nothing known.  Three short names
stand for categories although they abbreviate other properties too. -/
def find (q : PropertyQuery) : Option CharSet :=
  match q with
  | .named name =>
    let normal := normalize name
    let binary := if ["cf", "sc", "lc"].contains normal then none else binary? normal
    binary.or ((category? normal).or ((script? normal).map fun s => Table.charSet s.own))
  | .valued name value =>
    let normal := normalize value
    if isNamed (normalize name) ["gc", "General_Category"] then category? normal
    else if isNamed (normalize name) ["sc", "Script"] then
      (script? normal).map fun s => Table.charSet s.own
    else if isNamed (normalize name) ["scx", "Script_Extensions"] then
      (script? normal).map fun s => Table.charSet s.used
    else if isNamed (normalize name) ["age", "Age"] then
      Age.knownIn fun version => normalize version == normal
    else if isNamed (normalize name) ["gcb", "Grapheme_Cluster_Break"] then
      row? Segmentation.graphemeTable normal
    else if isNamed (normalize name) ["wb", "Word_Break"] then row? Segmentation.wordTable normal
    else if isNamed (normalize name) ["sb", "Sentence_Break"] then
      row? Segmentation.sentenceTable normal
    else none

end PropertyQuery

/-! ## 3. Sets with names of their own -/

namespace CharSet

/-- The decimal digits of all scripts. -/
def digits : CharSet := Category.decimalDigits

/-- White space. -/
def spaces : CharSet := Binary.members "White_Space"

/-- Letters and the like: characters with the alphabetic property. -/
def alphabetic : CharSet := Binary.members "Alphabetic"

/-- What words are made of: letters, marks, digits, connecting punctuation and joiners. -/
def wordCharacters : CharSet :=
  .unions [alphabetic, Category.anyOf ["Mn", "Mc", "Me", "Nd", "Pc"],
    Binary.members "Join_Control"]

/-- Letters and the like, with those added of late. -/
def letters : CharSet := alphabetic.union (Table.charSet Recent.letters)

/-- Letters and numbers of every form, with those added of late. -/
def lettersAndNumbers : CharSet :=
  .unions [letters, Category.anyOf ["Nd", "Nl", "No"], Table.charSet Recent.numbers]

/-- Letters that take the place of a missing part of a syllable, and show as nothing. -/
def fillers : CharSet := .ofCodes [0x115F, 0x1160, 0x3164, 0xFFA0]

/-- Sound marks of half width, which stand beside the character before them. -/
def soundMarks : CharSet := .ofRanges [(0xFF9E, 0xFF9F)]

/-- What has no shape of its own on a page, or attaches to the character before it. -/
def shapeless : CharSet :=
  let attached := (Binary.members "Grapheme_Extend").diff soundMarks
  let hidden := Category.anyOf ["Cc", "Cf", "Cn", "Co", "Zl", "Zp", "Zs"]
  (CharSet.unions [hidden, attached, fillers]).diff
    ((CharSet.single 0x20).union (Table.charSet Recent.visible))

end CharSet
end Rulebook
