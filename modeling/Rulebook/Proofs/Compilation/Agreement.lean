/-
Rulebook.Proofs.Compilation.Agreement — what can be said of compilations whose
handlers ask, and ask again.

A handler that is not pure makes a rule out of what the engine has answered, so
that the outcome of a compilation depends on the caches.  Two questions remain
that have an answer for all handlers, and one passage through the compilation
settles both:

  * which caches lead to the same outcome: two compilations are run side by
    side, from caches that stand in a relation, and the relation is kept;
  * what an outcome says, whatever it is: a rule set holds what the handlers
    of its operators have bound, and an error names something that is so.

  §1 Requests   — which types a handler may ask for.
  §2 Agreement  — `Agree rel bad good x y`; one lemma per way of combining steps.
  §3 Outcomes   — what a bound rule is, and what stands in the way of a scan.
  §4 The steps  — two compilations of one definition agree.

An invariant of the caches is the relation of caches to themselves where it
holds, so that invariants need no logic of their own.
-/
import Rulebook.Proofs.Compilation.CompilationTheorems

namespace Rulebook

/-! ## 1. Requests -/

/-- The build may come to ask for the rule set of a type. -/
inductive Build.Asks (other : EntityType) : Build → Prop
  | now (next : Answer → Build) : Asks other (.ask other next)
  | later {type : EntityType} {next : Answer → Build} (answer : Answer)
      (h : Asks other (next answer)) : Asks other (.ask type next)

/-- Some registered handler may come to ask for the rule set of a type. -/
def Registry.Asks (r : Registry) (other : EntityType) : Prop :=
  ∃ h ∈ r.handlers, ∃ t, (h.build t).Asks other

/-! ## 2. Agreement -/

namespace Compiling

variable {α β : Type} {rel : Caches → Caches → Prop} {bad : Misconfiguration → Prop}

/-- A result is `good`, and an error is `bad`. -/
def Ends (bad : Misconfiguration → Prop) (good : α → Prop) : Except Misconfiguration α → Prop
  | .ok a => good a
  | .error e => bad e

/-- From the given caches the steps end alike, in a good result or a bad error, and leave related
caches. -/
def AgreeAt (rel : Caches → Caches → Prop) (bad : Misconfiguration → Prop) (good : α → Prop)
    (x y : Compiling α) (c c' : Caches) : Prop :=
  (x.run.run c).1 = (y.run.run c').1 ∧ rel (x.run.run c).2 (y.run.run c').2 ∧
    Ends bad good (x.run.run c).1

/-- The steps agree from all related caches. -/
def Agree (rel : Caches → Caches → Prop) (bad : Misconfiguration → Prop) (good : α → Prop)
    (x y : Compiling α) : Prop :=
  ∀ c c', rel c c' → AgreeAt rel bad good x y c c'

theorem agree_pure {good : α → Prop} {a : α} (h : good a) :
    Agree rel bad good (pure a) (pure a) := fun _ _ related => ⟨rfl, related, h⟩

theorem agree_throw {good : α → Prop} {e : Misconfiguration} (h : bad e) :
    Agree rel bad good (throw e) (throw e) := fun _ _ related => ⟨rfl, related, h⟩

theorem Agree.bind {good : α → Prop} {best : β → Prop} {x y : Compiling α}
    {f g : α → Compiling β} (hx : Agree rel bad good x y)
    (hf : ∀ a, good a → Agree rel bad best (f a) (g a)) :
    Agree rel bad best (x >>= f) (y >>= g) := by
  intro c c' related
  obtain ⟨same, kept, ended⟩ := hx c c' related
  unfold AgreeAt
  rw [run_bind, run_bind]
  rcases hrun : x.run.run c with ⟨outcome, later⟩
  rcases hrun' : y.run.run c' with ⟨outcome', later'⟩
  rw [hrun] at same kept ended
  rw [hrun'] at same kept
  obtain rfl : outcome = outcome' := same
  cases outcome with
  | error e => exact ⟨rfl, kept, ended⟩
  | ok a => exact hf a ended later later' kept

theorem Agree.mono {good better : α → Prop} {x y : Compiling α} (h : Agree rel bad better x y)
    (weaker : ∀ a, better a → good a) : Agree rel bad good x y := by
  intro c c' related
  obtain ⟨same, kept, ended⟩ := h c c' related
  refine ⟨same, kept, ?_⟩
  cases outcome : (x.run.run c).1 with
  | error e => rwa [outcome] at ended
  | ok a => exact weaker a (by rwa [outcome] at ended)

/-- Steps that cannot fail pass on what they give. -/
theorem agree_lift_bind {x y : StateM Caches α} {good : β → Prop} {f g : α → Compiling β}
    (hx : ∀ c c', rel c c' → (x.run c).1 = (y.run c').1 ∧ rel (x.run c).2 (y.run c').2 ∧
      Agree rel bad good (f (x.run c).1) (g (x.run c).1)) :
    Agree rel bad good (liftM x >>= f) (liftM y >>= g) := by
  intro c c' related
  obtain ⟨same, kept, next⟩ := hx c c' related
  have ended := next _ _ kept
  rw [same] at ended
  have first : (liftM x >>= f : Compiling β).run.run c = (f (y.run c').1).run.run (x.run c).2 := by
    rw [← same]
    rfl
  unfold AgreeAt at ended ⊢
  rw [first]
  exact ended

/-- Steps for each element of a list, in order, up to the first failure. -/
theorem Agree.mapM {good : α → β → Prop} {f g : α → Compiling β} (xs : List α)
    (h : ∀ a ∈ xs, Agree rel bad (good a) (f a) (g a)) :
    Agree rel bad (List.Forall₂ good xs) (xs.mapM f) (xs.mapM g) := by
  induction xs with
  | nil => exact agree_pure .nil
  | cons a xs ih =>
    rw [List.mapM_cons, List.mapM_cons]
    refine Agree.bind (h a List.mem_cons_self) fun b first => ?_
    refine Agree.bind (ih fun a' mem => h a' (List.mem_cons_of_mem a mem)) fun bs rest => ?_
    exact agree_pure (.cons first rest)

end Compiling

/-! ## 3. Outcomes -/

namespace Scan

/-- The bound rule is the declared one, bound by the handler of its operator; `ends` says how
builds end. -/
def Binds (s : Scan) (ends : Build → Except Refusal Predicate → Prop) (declared : String × Rule)
    (bound : BoundRule) : Prop :=
  ∃ property handler predicate,
    s.shape.property? declared.1 = some property ∧
    s.resolve declared.2.operator = some handler ∧
    ends (handler.build ⟨s.shape, property, declared.2⟩) (.ok predicate) ∧
    bound =
      { property := declared.1
        operator := declared.2.operator
        predicate := predicate
        message := declared.2.message.getD (handler.defaultMessage ⟨s.shape, property, declared.2⟩)
        severity := declared.2.severity }

/-- What an error of a compilation says is so: a required property is missing, an operator has no
handler, or the build of a declared rule ends with a refusal. -/
inductive Blocks (s : Scan) (ends : Build → Except Refusal Predicate → Prop) :
    Misconfiguration → Prop
  | unknownProperty (name : String)
      (required : s.key = some name ∨ ∃ d ∈ s.definition.properties, d.name = name)
      (missing : s.shape.property? name = none) :
      Blocks s ends (.unknownProperty s.type s.metadata name)
  | handlerNotFound (name : String) (rule : Rule)
      (declared : (name, rule) ∈ s.definition.declaredRules)
      (unrouted : s.resolve rule.operator = none) :
      Blocks s ends (.handlerNotFound rule.operator s.type name)
  | binding (name : String) (rule : Rule) (property : Property) (handler : Handler)
      (reason : Refusal) (declared : (name, rule) ∈ s.definition.declaredRules)
      (found : s.shape.property? name = some property)
      (routed : s.resolve rule.operator = some handler)
      (refused : ends (handler.build ⟨s.shape, property, rule⟩) (.error reason)) :
      Blocks s ends (.binding s.type name rule.operator reason)

/-- The rule set is that of the scan: its key is the one that the scan names, which is in the shape,
and its rules are the declared ones in order, each bound. -/
structure Describes (s : Scan) (ends : Build → Except Refusal Predicate → Prop) (set : RuleSet) :
    Prop where
  entity : set.entity = s.type
  key : set.key = s.key.bind s.shape.property?
  named : set.key.map (·.name) = s.key
  rules : List.Forall₂ (s.Binds ends) s.definition.declaredRules set.rules

end Scan

theorem Definition.mem_declaredRules {d : Definition} {p : DeclaredProperty} {r : Rule}
    (declared : p ∈ d.properties) (rule : r ∈ p.rules) : (p.name, r) ∈ d.declaredRules :=
  List.mem_flatMap.mpr ⟨p, declared, List.mem_map.mpr ⟨r, rule, rfl⟩⟩

/-! ## 4. The steps -/

/-- The builds of routed handlers end alike under both responders, as `ends` says, and keep the
relation of caches. -/
def Registry.BuildsAgree (registry : Registry) (rel : Caches → Caches → Prop)
    (ends : Build → Except Refusal Predicate → Prop) (r r' : Responder) : Prop :=
  ∀ h ∈ registry.handlers, ∀ t c c', rel c c' →
    let x := ((h.build t).run r).run c
    let y := ((h.build t).run r').run c'
    x.1 = y.1 ∧ rel x.2 y.2 ∧ ends (h.build t) x.1

/-- A build that asks goes on with the answer, from the caches that answering has left. -/
theorem Build.run_ask (responder : Responder) (type : EntityType) (next : Answer → Build)
    (c : Caches) :
    ((Build.ask type next).run responder).run c =
      ((next ((responder type).run c).1).run responder).run ((responder type).run c).2 := rfl

/-- A build ends alike, and keeps the relation, if the answers that it may ask for do. -/
theorem Build.agree_run {rel : Caches → Caches → Prop} {r r' : Responder} {b : Build}
    (answers : ∀ other, b.Asks other → ∀ c c', rel c c' →
      ((r other).run c).1 = ((r' other).run c').1 ∧ rel ((r other).run c).2 ((r' other).run c').2) :
    ∀ c c', rel c c' →
      ((b.run r).run c).1 = ((b.run r').run c').1 ∧
        rel ((b.run r).run c).2 ((b.run r').run c').2 := by
  induction b with
  | done result => exact fun c c' related => ⟨rfl, related⟩
  | ask type next ih =>
    intro c c' related
    obtain ⟨same, answered⟩ := answers type (.now next) c c' related
    rw [run_ask, run_ask, ← same]
    exact ih _ (fun other asks => answers other (.later _ asks)) _ _ answered

section Steps

open Compiling

variable {rel : Caches → Caches → Prop} {ends : Build → Except Refusal Predicate → Prop}
  {registry : Registry} {r r' : Responder} {s : Scan}

theorem agree_bindRule (builds : registry.BuildsAgree rel ends r r')
    (routes : s.resolve = registry.resolve) {name : String} {property : Property} {rule : Rule}
    (found : s.shape.property? name = some property)
    (declared : (name, rule) ∈ s.definition.declaredRules) :
    Agree rel (s.Blocks ends) (s.Binds ends (name, rule))
      (bindRule registry r s.type s.shape property rule)
      (bindRule registry r' s.type s.shape property rule) := by
  obtain rfl : property.name = name := Scan.name_of_property? found
  rw [bindRule_eq, bindRule_eq, ← routes]
  cases routed : s.resolve rule.operator with
  | none => exact agree_throw (.handlerNotFound _ rule declared routed)
  | some handler =>
    apply agree_lift_bind
    intro c c' related
    have mem : handler ∈ registry.handlers := Registry.mem_of_resolve (routes ▸ routed)
    obtain ⟨same, kept, ended⟩ := builds handler mem ⟨s.shape, property, rule⟩ c c' related
    refine ⟨same, kept, ?_⟩
    cases outcome : (((handler.build ⟨s.shape, property, rule⟩).run r).run c).1 with
    | error reason =>
      rw [outcome] at ended
      exact agree_throw (.binding _ rule property handler reason declared found routed ended)
    | ok predicate =>
      rw [outcome] at ended
      exact agree_pure ⟨property, handler, predicate, found, routed, ended, rfl⟩

theorem agree_requireProperty {name : String}
    (required : s.key = some name ∨ ∃ d ∈ s.definition.properties, d.name = name) :
    Agree rel (s.Blocks ends) (fun p => s.shape.property? name = some p)
      (requireProperty s.type s.metadata s.shape name)
      (requireProperty s.type s.metadata s.shape name) := by
  unfold requireProperty
  cases found : s.shape.property? name with
  | none => exact agree_throw (.unknownProperty name required found)
  | some p => exact agree_pure rfl

theorem agree_bindProperty (builds : registry.BuildsAgree rel ends r r')
    (routes : s.resolve = registry.resolve) {d : DeclaredProperty}
    (declared : d ∈ s.definition.properties) :
    Agree rel (s.Blocks ends)
      (List.Forall₂ (s.Binds ends) (d.rules.map fun rule => (d.name, rule)))
      (bindProperty registry r s.type s.metadata s.shape d)
      (bindProperty registry r' s.type s.metadata s.shape d) := by
  refine (agree_requireProperty (.inr ⟨d, declared, rfl⟩)).bind fun property found => ?_
  refine (Agree.mapM d.rules fun rule mem => agree_bindRule builds routes found
    (Definition.mem_declaredRules declared mem)).mono fun rules bound => ?_
  rwa [List.forall₂_map_left_iff]

/-- With the key known, a definition is bound alike, to what the scan says. -/
theorem agree_bindAll (builds : registry.BuildsAgree rel ends r r')
    (routes : s.resolve = registry.resolve) {key : Option Property}
    (found : key = s.key.bind s.shape.property? ∧ key.map (·.name) = s.key) :
    Agree rel (s.Blocks ends) (s.Describes ends)
      (do
        let rules ← s.definition.properties.mapM
          (bindProperty registry r s.type s.metadata s.shape)
        return RuleSet.mk s.type key rules.flatten)
      (do
        let rules ← s.definition.properties.mapM
          (bindProperty registry r' s.type s.metadata s.shape)
        return RuleSet.mk s.type key rules.flatten) := by
  refine (Agree.mapM _ fun d declared => agree_bindProperty builds routes declared).bind
    fun rules bound => agree_pure ⟨rfl, found.1, found.2, ?_⟩
  have blocks : List.Forall₂ (List.Forall₂ (s.Binds ends))
      (s.definition.properties.map fun d => d.rules.map fun rule => (d.name, rule)) rules := by
    rwa [List.forall₂_map_left_iff]
  have flat := List.rel_flatten blocks
  rwa [← List.flatMap_def] at flat

/-- Definitions are bound alike from caches that both have the key of the scan in force. -/
theorem agree_bindDefinition (builds : registry.BuildsAgree rel ends r r')
    (routes : s.resolve = registry.resolve) {c c' : Caches}
    (key : s.key = c.keyInForce s.metadata s.definition)
    (key' : s.key = c'.keyInForce s.metadata s.definition)
    (looked : rel (c.entityKey s.metadata s.definition).2
      (c'.entityKey s.metadata s.definition).2) :
    AgreeAt rel (s.Blocks ends) (s.Describes ends)
      (bindDefinition registry r s.type s.metadata s.shape s.definition)
      (bindDefinition registry r' s.type s.metadata s.shape s.definition) c c' := by
  unfold AgreeAt bindDefinition
  rw [run_onCaches_bind, run_onCaches_bind, Caches.entityKey_fst, Caches.entityKey_fst, ← key,
    ← key']
  cases named : s.key with
  | none => exact agree_bindAll builds routes (by rw [named]; exact ⟨rfl, rfl⟩) _ _ looked
  | some name =>
    have property : Agree rel (s.Blocks ends)
        (fun key => key = s.key.bind s.shape.property? ∧ key.map (·.name) = s.key)
        (some <$> requireProperty s.type s.metadata s.shape name)
        (some <$> requireProperty s.type s.metadata s.shape name) := by
      refine Agree.bind (agree_requireProperty (.inl named)) fun p found => agree_pure ?_
      rw [named]
      exact ⟨found.symm, congrArg some (Scan.name_of_property? found)⟩
    exact (property.bind fun key found => agree_bindAll builds routes found) _ _ looked

end Steps

/-! ### Entity types -/

section Types

variable (catalog : Catalog) (registry : Registry) (bindings : Bindings)
  (key : MetadataType → Option String) (ends : Build → Except Refusal Predicate → Prop)
  (type : EntityType)

/-- The rule set is one for the definition that the type is bound to. -/
def CompilesTo (set : RuleSet) : Prop :=
  ∃ m, bindings.table.get? type = some m ∧
    (Scan.of catalog registry type m (key m)).Describes ends set

/-- The error says what is so: there is no binding, or something blocks the definition that the
type is bound to. -/
def Obstructed (e : Misconfiguration) : Prop :=
  bindings.table.get? type = none ∧ e = .missingBinding type ∨
    ∃ m, bindings.table.get? type = some m ∧
      (Scan.of catalog registry type m (key m)).Blocks ends e

end Types

open Compiling in
/-- Types are compiled alike from related caches that have the same keys in force. -/
theorem agree_compile (rel : Caches → Caches → Prop)
    {ends : Build → Except Refusal Predicate → Prop} {registry : Registry} {r r' : Responder}
    (builds : registry.BuildsAgree rel ends r r') (catalog : Catalog) (bindings : Bindings)
    (type : EntityType) (key : MetadataType → Option String) {c c' : Caches} (related : rel c c')
    (looks : ∀ m, let d := catalog.definition m
      key m = c.keyInForce m d ∧ key m = c'.keyInForce m d ∧
        rel (c.entityKey m d).2 (c'.entityKey m d).2) :
    AgreeAt rel (Obstructed catalog registry bindings key ends type)
      (CompilesTo catalog registry bindings key ends type)
      (compile catalog registry bindings r type) (compile catalog registry bindings r' type)
      c c' := by
  unfold compile Bindings.lookup
  cases bound : bindings.table.get? type with
  | none => exact agree_throw (.inl ⟨bound, rfl⟩) c c' related
  | some m =>
    obtain ⟨now, now', looked⟩ := looks m
    obtain ⟨same, kept, ended⟩ := agree_bindDefinition
      (s := .of catalog registry type m (key m)) builds rfl now now' looked
    refine ⟨same, kept, ?_⟩
    change Ends _ _ ((bindDefinition registry r type m _ _).run.run c).1
    cases outcome : ((bindDefinition registry r type m (catalog.shape type)
        (catalog.definition m)).run.run c).1 with
    | error e =>
      rw [Scan.of, outcome] at ended
      exact .inr ⟨m, bound, ended⟩
    | ok set =>
      rw [Scan.of, outcome] at ended
      exact ⟨m, bound, ended⟩

end Rulebook
