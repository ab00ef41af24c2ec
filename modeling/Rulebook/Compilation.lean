/-
Rulebook.Compilation — turning a definition into the rule set of an entity type.

Compilation looks up the metadata bound to the type, resolves the entity key
and then walks the declared properties and their rules in order; every rule is
routed to the handler of its operator, which binds it to the type's shape.  The
first obstacle ends the compilation.

Compiled sets are cached by entity type and keys by metadata type.  A handler
may ask for the rule set of another type while a rule is being bound; such
requests nest, and a type that is being compiled is not compiled again inside.
-/
import Rulebook.Binding
import Rulebook.Handler.Discovery

namespace Rulebook

/-! ## 1. What compilation reads and keeps -/

/-- What is declared outside the engine: the shapes of entity types, the definitions of metadata
types, the handlers that can be discovered, and the module that holds the standard ones. -/
structure Catalog where
  shape : EntityType → Shape
  definition : MetadataType → Definition
  entries : List HandlerEntry
  standardModule : String

/-- What compilations leave behind. -/
structure Caches where
  /-- The entity key of each metadata type that has been compiled or asked for. -/
  keys : FiniteMap MetadataType (Option String) := ∅
  /-- The slots of rule sets.  A type has one once it has been attempted to compile it, and a rule
  set is in it when that has succeeded. -/
  sets : SlotMap EntityType RuleSet := ∅
  /-- How many compilations have succeeded. -/
  compilations : Nat := 0

namespace Caches

/-- Nothing cached. -/
def empty : Caches := {}

/-- The entity key of a metadata type: the cached one, or that of `d`, which is then cached. -/
def entityKey (m : MetadataType) (d : Definition) (c : Caches) : Option String × Caches :=
  match c.keys.get? m with
  | some key => (key, c)
  | none => (d.entityKey, { c with keys := c.keys.insert m d.entityKey })

/-- Reserves the slot of a type that is about to be compiled. -/
def reserve (type : EntityType) (c : Caches) : Caches := { c with sets := c.sets.reserve type }

/-- Counts a compilation and puts its rule set into the slot of the type. -/
def store (type : EntityType) (set : RuleSet) (c : Caches) : Caches :=
  { c with sets := c.sets.fill type set, compilations := c.compilations + 1 }

end Caches

/-! ## 2. Where compilations run -/

/-- A state that compilations can run on: it has the caches in it, and may take note of the calls of
handlers. -/
class Workspace (σ : Type) where
  caches : σ → Caches
  withCaches : Caches → σ → σ
  noted : HandlerCall → σ → σ

/-- Engines have nothing but the caches, and take no notes. -/
instance : Workspace Caches where
  caches c := c
  withCaches c _ := c
  noted _ c := c

/-- Steps of a compilation: they read and write the caches and may fail, and what was written
before a failure stays. -/
abbrev CompilingIn (σ : Type) := ExceptT Misconfiguration (StateM σ)

/-- How requests of handlers for other rule sets are answered. -/
abbrev ResponderIn (σ : Type) := EntityType → StateM σ Answer

/-- Compilations of an engine. -/
abbrev Compiling := CompilingIn Caches

/-- The answers of an engine. -/
abbrev Responder := ResponderIn Caches

/-- Answers that nobody is there to ask. -/
def Responder.silent : Responder := fun _ => pure .noEngine

section Compilation

variable {σ : Type} [Workspace σ]

/-- The caches as they are. -/
def theCaches : CompilingIn σ Caches := return Workspace.caches (← get)

/-- Works on the caches. -/
def onCaches {α : Type} (work : Caches → α × Caches) : CompilingIn σ α :=
  modifyGet fun s =>
    let (a, c) := work (Workspace.caches s)
    (a, Workspace.withCaches c s)

/-- Takes note of a call that has returned. -/
def note (call : HandlerCall) : StateM σ Unit := modify (Workspace.noted call)

/-! ## 3. One rule set -/

/-- Carries the dialogue of a handler through. -/
def Build.run (responder : ResponderIn σ) : Build → StateM σ (Except Refusal Predicate)
  | .done result => pure result
  | .ask type next => do
    let answer ← responder type
    (next answer).run responder

/-- Has a handler bind a rule. -/
def callBuild (responder : ResponderIn σ) (h : Handler) (t : Target) :
    StateM σ (Except Refusal Predicate) := do
  let result ← (h.build t).run responder
  note (.build h t result)
  return result

/-- The text of a rule, or the handler's where there is none. -/
def wording (h : Handler) (t : Target) : StateM σ String :=
  match t.rule.message with
  | some text => pure text
  | none => do
    let text := h.defaultMessage t
    note (.defaultMessage h t text)
    return text

/-- Binds one rule of a property. -/
def bindRule (registry : Registry) (responder : ResponderIn σ) (type : EntityType) (shape : Shape)
    (property : Property) (rule : Rule) : CompilingIn σ BoundRule := do
  match registry.resolve rule.operator with
  | none => throw (.handlerNotFound rule.operator type property.name)
  | some handler =>
    let target : Target := ⟨shape, property, rule⟩
    match ← callBuild responder handler target with
    | .error reason => throw (.binding type property.name rule.operator reason)
    | .ok predicate =>
      let message ← (wording handler target : StateM σ String)
      return { property := property.name
               operator := rule.operator
               predicate := predicate
               message := message
               severity := rule.severity }

/-- The property of a shape with the given name. -/
def requireProperty (type : EntityType) (metadata : MetadataType) (shape : Shape)
    (name : String) : CompilingIn σ Property :=
  match shape.property? name with
  | some p => pure p
  | none => throw (.unknownProperty type metadata name)

/-- Binds the rules of one declared property, which must be in the shape even without rules. -/
def bindProperty (registry : Registry) (responder : ResponderIn σ) (type : EntityType)
    (metadata : MetadataType) (shape : Shape) (declared : DeclaredProperty) :
    CompilingIn σ (List BoundRule) := do
  let property ← requireProperty type metadata shape declared.name
  declared.rules.mapM (bindRule registry responder type shape property)

/-- Resolves the entity key and binds all rules of a definition. -/
def bindDefinition (registry : Registry) (responder : ResponderIn σ) (type : EntityType)
    (metadata : MetadataType) (shape : Shape) (definition : Definition) :
    CompilingIn σ RuleSet := do
  let key ← match ← onCaches (Caches.entityKey metadata definition) with
    | some name => some <$> requireProperty type metadata shape name
    | none => pure none
  let rules ← definition.properties.mapM (bindProperty registry responder type metadata shape)
  return ⟨type, key, rules.flatten⟩

/-- Compiles the rule set of an entity type. -/
def compile (catalog : Catalog) (registry : Registry) (bindings : Bindings)
    (responder : ResponderIn σ) (type : EntityType) : CompilingIn σ RuleSet :=
  match bindings.lookup type with
  | .error e => throw e
  | .ok metadata =>
    bindDefinition registry responder type metadata (catalog.shape type)
      (catalog.definition metadata)

/-! ## 4. The cache, and requests inside requests -/

/-- The cached rule set of a type, or a freshly compiled one, which is then cached. -/
def cachedOrCompiled (catalog : Catalog) (registry : Registry) (bindings : Bindings)
    (responder : ResponderIn σ) (type : EntityType) : CompilingIn σ RuleSet := do
  match (← theCaches).sets.get? type with
  | some set => return set
  | none =>
    onCaches fun c => ((), c.reserve type)
    let set ← compile catalog registry bindings responder type
    onCaches fun c => ((), c.store type set)
    return set

/-- What becomes of a request for a type that is not bound. -/
def refuseUnbound (type : EntityType) : CompilingIn σ RuleSet := do
  onCaches fun c => ((), c.reserve type)
  throw (.missingBinding type)

/-- Answers requests of handlers from the engine itself.  `chain` lists the types that are being
compiled, and `depth` bounds how many more can be: only bound types ask, and no type twice, so
that at depth zero a type outside the chain is not bound. -/
def nestedResponder (catalog : Catalog) (registry : Registry) (bindings : Bindings) :
    Nat → List EntityType → ResponderIn σ
  | depth, chain, type =>
    if type ∈ chain then pure .inProgress
    else match depth with
      | 0 => Answer.outcome <$> (refuseUnbound type).run
      | depth + 1 =>
        let responder := nestedResponder catalog registry bindings depth (type :: chain)
        Answer.outcome <$> (cachedOrCompiled catalog registry bindings responder type).run

/-- The rule set of a type, where handlers may ask for those of other types. -/
def ruleSetOf (catalog : Catalog) (registry : Registry) (bindings : Bindings)
    (type : EntityType) : CompilingIn σ RuleSet :=
  cachedOrCompiled catalog registry bindings
    (nestedResponder catalog registry bindings bindings.size [type]) type

end Compilation

end Rulebook
