/-
Rulebook.Definition — the properties and rules that a metadata type declares.

A definition is built in steps.  Each step opens a property, or reopens it
where it was first declared, and appends rules to it or marks it as the key of
the entity.  The first marked property in declaration order is the key.
-/
import Rulebook.Entity.Shape
import Rulebook.Rule

namespace Rulebook

/-- A metadata type. -/
structure MetadataType where
  id : TypeId
deriving DecidableEq, Repr, Inhabited

/-- The full name of the type. -/
def MetadataType.name (type : MetadataType) : String := type.id.name

/-- The rules declared for one property. -/
structure DeclaredProperty where
  name : String
  isKey : Bool := false
  rules : List Rule := []
deriving Repr, Inhabited

namespace DeclaredProperty

/-- Appends a rule. -/
def addRule (p : DeclaredProperty) (r : Rule) : DeclaredProperty :=
  { p with rules := p.rules ++ [r] }

/-- Marks the property as the key. -/
def markKey (p : DeclaredProperty) : DeclaredProperty := { p with isKey := true }

/-- Equality of declared properties, rule by rule. -/
def identical (a b : DeclaredProperty) : Bool :=
  a.name == b.name && a.isKey == b.isKey && a.rules.length == b.rules.length &&
    (a.rules.zip b.rules).all fun r => r.1.identical r.2

end DeclaredProperty

/-- Declared properties in the order in which they were first opened. -/
structure Definition where
  properties : List DeclaredProperty := []
deriving Repr, Inhabited

/-- What a step does to the property it has opened. -/
inductive DefinitionAction
  | rule (r : Rule)
  | key
deriving Repr

/-- Opens or reopens a property and then acts on it. -/
structure DefinitionStep where
  property : String
  actions : List DefinitionAction := []
deriving Repr

namespace Definition

/-- The definition without properties. -/
def empty : Definition := {}

/-- Changes the first property of the given name; a new one is appended if there is none. -/
def modify (name : String) (change : DeclaredProperty → DeclaredProperty) :
    List DeclaredProperty → List DeclaredProperty
  | [] => [change { name := name }]
  | p :: ps => if p.name = name then change p :: ps else p :: modify name change ps

/-- What one action does to a property. -/
def act (p : DeclaredProperty) : DefinitionAction → DeclaredProperty
  | .rule r => p.addRule r
  | .key => p.markKey

/-- Runs one step. -/
def run (d : Definition) (s : DefinitionStep) : Definition :=
  ⟨modify s.property (fun p => s.actions.foldl act p) d.properties⟩

/-- Runs steps from the empty definition. -/
def ofSteps (steps : List DefinitionStep) : Definition := steps.foldl run empty

/-- The name of the first property marked as key. -/
def entityKey (d : Definition) : Option String := (d.properties.find? (·.isKey)).map (·.name)

/-- The number of rules of all properties. -/
def ruleCount (d : Definition) : Nat := (d.properties.flatMap (·.rules)).length

/-- Equality of definitions, property by property. -/
def identical (a b : Definition) : Bool :=
  a.properties.length == b.properties.length &&
    (a.properties.zip b.properties).all fun p => p.1.identical p.2

end Definition
end Rulebook
