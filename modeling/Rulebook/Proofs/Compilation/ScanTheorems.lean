/-
Rulebook.Proofs.Compilation.ScanTheorems — compilation as a scan for obstacles.

A compilation passes a list of checkpoints: the key, then for each declared
property the property itself and for each of its rules first the handler and
then the binding.  A `Scan` holds everything that this depends on, and says
independently of how the compilation proceeds

  * which obstacle stands at a checkpoint, and which is the first (`firstObstacle`);
  * which bound rule carries a declared one (`Carries`).

  §1 Failures  — where steps that may fail do fail, and what they give if not.
  §2 Scans     — checkpoints, obstacles, and the rule set without caches.
  §3 Exactness — the rule set exists exactly if no checkpoint has an obstacle,
                 and then carries the declared rules in order.
  §4 Growth    — a rule set stays what it is when more operators are routed.
-/
import Mathlib.Data.List.Forall2
import Mathlib.Data.List.Nodup
import Rulebook.Proofs.Compilation.Steps

namespace Rulebook

/-! ## 1. Failures -/

/-- The failure of a computation that failed. -/
def failure? {ε α : Type} : Except ε α → Option ε
  | .ok _ => none
  | .error e => some e

section Failures

variable {ε α β : Type}

theorem failure?_eq_some_iff {x : Except ε α} {e : ε} : failure? x = some e ↔ x = .error e := by
  cases x <;> simp [failure?]

theorem failure?_eq_none_iff {x : Except ε α} : failure? x = none ↔ ∃ a, x = .ok a := by
  cases x <;> simp [failure?]

theorem failure?_map (f : α → β) (x : Except ε α) : failure? (f <$> x) = failure? x := by
  cases x <;> rfl

/-- A sequence fails where its first part fails, and otherwise where the second does. -/
theorem failure?_bind (x : Except ε α) {f : α → Except ε β} {o : Option ε}
    (h : ∀ a, x = .ok a → failure? (f a) = o) : failure? (x >>= f) = (failure? x).or o := by
  cases x with
  | error e => rfl
  | ok a => exact h a rfl

/-- Steps for each element fail at the first element whose step fails. -/
theorem failure?_mapM (f : α → Except ε β) (xs : List α) :
    failure? (xs.mapM f) = xs.findSome? fun a => failure? (f a) := by
  induction xs with
  | nil => rfl
  | cons a xs ih =>
    rw [List.mapM_cons, List.findSome?_cons]
    have rest : ∀ b, failure? (xs.mapM f >>= fun bs => pure (b :: bs)) = failure? (xs.mapM f) :=
      fun b => failure?_map (b :: ·) (xs.mapM f)
    rw [failure?_bind (f a) fun b _ => rest b, ih]
    cases failure? (f a) <;> rfl

theorem findSome?_flatMap (f : α → List β) (g : β → Option ε) (xs : List α) :
    (xs.flatMap f).findSome? g = xs.findSome? fun a => (f a).findSome? g := by
  induction xs with
  | nil => rfl
  | cons a xs ih =>
    rw [List.flatMap_cons, List.findSome?_append, ih, List.findSome?_cons]
    cases (f a).findSome? g <;> rfl

/-- A sequence succeeds where both parts do. -/
theorem bind_eq_ok_iff {x : Except ε α} {f : α → Except ε β} {b : β} :
    x >>= f = .ok b ↔ ∃ a, x = .ok a ∧ f a = .ok b := by
  cases x with
  | error e => exact ⟨fun h => (nomatch h), fun ⟨_, h, _⟩ => (nomatch h)⟩
  | ok a => exact ⟨fun h => ⟨a, rfl, h⟩, fun ⟨_, same, h⟩ => Except.ok.inj same ▸ h⟩

/-- Steps for each element succeed where every step does, with the results in order. -/
theorem mapM_eq_ok_iff {f : α → Except ε β} {xs : List α} {ys : List β} :
    xs.mapM f = .ok ys ↔ List.Forall₂ (fun a b => f a = .ok b) xs ys := by
  induction xs generalizing ys with
  | nil =>
    rw [List.forall₂_nil_left_iff]
    exact ⟨fun h => (Except.ok.inj h).symm, fun h => h ▸ rfl⟩
  | cons a xs ih =>
    simp only [List.mapM_cons, bind_eq_ok_iff, ih, List.forall₂_cons_left_iff]
    constructor
    · rintro ⟨b, first, bs, rest, same⟩
      exact ⟨b, bs, first, rest, (Except.ok.inj same).symm⟩
    · rintro ⟨b, bs, first, rest, rfl⟩
      exact ⟨b, first, bs, rest, rfl⟩

/-- What stands in the second of two related lists is related to something in the first. -/
theorem exists_of_forall₂ {rel : α → β → Prop} {xs : List α} {ys : List β}
    (h : List.Forall₂ rel xs ys) {b : β} (mem : b ∈ ys) : ∃ a ∈ xs, rel a b := by
  induction h with
  | nil => cases mem
  | cons head _ ih =>
    rcases List.mem_cons.mp mem with rfl | rest
    · exact ⟨_, List.mem_cons_self, head⟩
    · obtain ⟨a, here, related⟩ := ih rest
      exact ⟨a, List.mem_cons_of_mem _ here, related⟩

end Failures

/-! ## 2. Scans -/

/-- Everything that the outcome of a compilation depends on, apart from the binding of the type. -/
structure Scan where
  /-- The handler that an operator is routed to. -/
  resolve : Operator → Option Handler
  type : EntityType
  metadata : MetadataType
  shape : Shape
  /-- The name of the property that serves as the entity key. -/
  key : Option String
  definition : Definition

/-- Where a compilation can end early. -/
inductive Checkpoint
  /-- A property of the given name must be in the shape. -/
  | property (name : String)
  /-- The operator of a rule must have a handler. -/
  | handler (property : String) (rule : Rule)
  /-- The handler must bind the rule. -/
  | binding (property : String) (rule : Rule)

/-- The declared rules with their properties: properties in order, and the rules of each in
order. -/
def Definition.declaredRules (d : Definition) : List (String × Rule) :=
  d.properties.flatMap fun p => p.rules.map fun r => (p.name, r)

theorem Definition.length_declaredRules (d : Definition) :
    d.declaredRules.length = d.ruleCount := by
  simp [declaredRules, ruleCount, List.length_flatMap]

/-- In a shape without repetition every property is found under its name. -/
theorem Shape.property?_of_mem {shape : Shape} (distinct : (shape.properties.map (·.name)).Nodup)
    {p : Property} (mem : p ∈ shape.properties) : shape.property? p.name = some p := by
  unfold property?
  cases found : shape.properties.find? fun x => x.name == p.name with
  | none => exact absurd (beq_self_eq_true p.name) (List.find?_eq_none.mp found p mem)
  | some x =>
    have same : x.name = p.name := by simpa using List.find?_some found
    rw [List.inj_on_of_nodup_map distinct (List.mem_of_find?_eq_some found) mem same]

namespace Scan

/-- The checkpoints of the rules of one property. -/
def ruleCheckpoints (property : String) (rule : Rule) : List Checkpoint :=
  [.handler property rule, .binding property rule]

/-- The checkpoints of one declared property. -/
def propertyCheckpoints (p : DeclaredProperty) : List Checkpoint :=
  .property p.name :: p.rules.flatMap (ruleCheckpoints p.name)

/-- All checkpoints in the order in which they are passed. -/
def checkpoints (s : Scan) : List Checkpoint :=
  s.key.toList.map .property ++ s.definition.properties.flatMap propertyCheckpoints

/-- What stands in the way at a checkpoint.  A rule without a property or without a handler meets
its obstacle before the binding. -/
def obstacle (s : Scan) : Checkpoint → Option Misconfiguration
  | .property name =>
    if (s.shape.property? name).isSome then none
    else some (.unknownProperty s.type s.metadata name)
  | .handler property rule =>
    if (s.resolve rule.operator).isSome then none
    else some (.handlerNotFound rule.operator s.type property)
  | .binding property rule =>
    match s.shape.property? property, s.resolve rule.operator with
    | some p, some handler =>
      (failure? (handler.build ⟨s.shape, p, rule⟩).outcome).map
        (.binding s.type property rule.operator)
    | _, _ => none

/-- The first obstacle on the way. -/
def firstObstacle (s : Scan) : Option Misconfiguration := s.checkpoints.findSome? s.obstacle

/-- The bound rule carries the declared one: the handler of its operator has bound it, and the
message is the one given with the rule, or else the handler's own. -/
def Carries (s : Scan) (declared : String × Rule) (bound : BoundRule) : Prop :=
  ∃ property handler predicate,
    s.shape.property? declared.1 = some property ∧
    s.resolve declared.2.operator = some handler ∧
    (handler.build ⟨s.shape, property, declared.2⟩).Settles (.ok predicate) ∧
    bound =
      { property := declared.1
        operator := declared.2.operator
        predicate := predicate
        message := declared.2.message.getD (handler.defaultMessage ⟨s.shape, property, declared.2⟩)
        severity := declared.2.severity }

/-- Nothing stands in the way: key and declared properties are in the shape, every operator has a
handler, and every handler binds its rule. -/
structure Clear (s : Scan) : Prop where
  key : ∀ name, s.key = some name → ∃ p, s.shape.property? name = some p
  declared : ∀ d ∈ s.definition.properties, ∃ p, s.shape.property? d.name = some p
  routed : ∀ d ∈ s.definition.properties, ∀ r ∈ d.rules, ∃ h, s.resolve r.operator = some h
  bound : ∀ d ∈ s.definition.properties, ∀ r ∈ d.rules, ∀ p h,
    s.shape.property? d.name = some p → s.resolve r.operator = some h →
      ∃ predicate, (h.build ⟨s.shape, p, r⟩).Settles (.ok predicate)

/-- The property of a name, or the obstacle that there is none. -/
def require (s : Scan) (name : String) : Except Misconfiguration Property :=
  match s.shape.property? name with
  | some p => .ok p
  | none => .error (.unknownProperty s.type s.metadata name)

/-- A declared rule, bound by the handler of its operator. -/
def bind (s : Scan) (property : Property) (rule : Rule) : Except Misconfiguration BoundRule :=
  match s.resolve rule.operator with
  | none => .error (.handlerNotFound rule.operator s.type property.name)
  | some handler =>
    match (handler.build ⟨s.shape, property, rule⟩).outcome with
    | .error reason => .error (.binding s.type property.name rule.operator reason)
    | .ok predicate =>
      .ok { property := property.name
            operator := rule.operator
            predicate := predicate
            message := rule.message.getD (handler.defaultMessage ⟨s.shape, property, rule⟩)
            severity := rule.severity }

/-- The rules of one declared property, bound in order. -/
def bindAll (s : Scan) (declared : DeclaredProperty) : Except Misconfiguration (List BoundRule) :=
  s.require declared.name >>= fun property => declared.rules.mapM (s.bind property)

/-- The property of the key, if there is to be one. -/
def keyProperty (s : Scan) : Except Misconfiguration (Option Property) :=
  match s.key with
  | some name => some <$> s.require name
  | none => .ok none

/-- The rule set, compiled without any cache. -/
def ruleSet (s : Scan) : Except Misconfiguration RuleSet :=
  s.keyProperty >>= fun key =>
    s.definition.properties.mapM s.bindAll >>= fun rules => .ok ⟨s.type, key, rules.flatten⟩

/-! ## 3. Exactness -/

/-- Every handler that an operator is routed to is pure. -/
def Pure (s : Scan) : Prop := ∀ op h, s.resolve op = some h → h.IsPure

theorem failure?_require (s : Scan) (name : String) :
    failure? (s.require name) = s.obstacle (.property name) := by
  unfold require
  cases h : s.shape.property? name <;> simp [obstacle, failure?, h]

/-- A property found under a name has that name. -/
theorem name_of_property? {shape : Shape} {name : String} {p : Property}
    (h : shape.property? name = some p) : p.name = name := by
  have found := List.find?_some h
  simpa using found

theorem property?_of_require {s : Scan} {name : String} {p : Property}
    (h : s.require name = .ok p) : s.shape.property? name = some p := by
  unfold require at h
  split at h
  · rename_i q found
    cases h
    exact found
  · cases h

/-- Binding a rule fails at the first of its two checkpoints. -/
theorem failure?_bind_rule (s : Scan) {name : String} {p : Property}
    (hp : s.shape.property? name = some p) (r : Rule) :
    failure? (s.bind p r) = (ruleCheckpoints name r).findSome? s.obstacle := by
  unfold bind ruleCheckpoints
  cases hr : s.resolve r.operator with
  | none => simp [obstacle, hr, failure?, name_of_property? hp]
  | some h =>
    cases ho : (h.build ⟨s.shape, p, r⟩).outcome <;>
      simp [obstacle, hp, hr, ho, failure?, name_of_property? hp]

theorem failure?_bindAll (s : Scan) (d : DeclaredProperty) :
    failure? (s.bindAll d) = (propertyCheckpoints d).findSome? s.obstacle := by
  rw [bindAll, propertyCheckpoints, List.findSome?_cons, ← failure?_require,
    failure?_bind (o := (d.rules.flatMap (ruleCheckpoints d.name)).findSome? s.obstacle)]
  · cases failure? (s.require d.name) <;> rfl
  · intro p h
    rw [failure?_mapM, findSome?_flatMap]
    congr 1
    funext r
    exact failure?_bind_rule s (property?_of_require h) r

/-- Compilation fails with the first obstacle, and with that alone. -/
theorem failure?_ruleSet (s : Scan) : failure? s.ruleSet = s.firstObstacle := by
  have rules : failure? (s.definition.properties.mapM s.bindAll)
      = (s.definition.properties.flatMap propertyCheckpoints).findSome? s.obstacle := by
    rw [failure?_mapM, findSome?_flatMap]
    congr 1
    funext d
    exact failure?_bindAll s d
  have key : failure? s.keyProperty = (s.key.toList.map .property).findSome? s.obstacle := by
    unfold keyProperty
    cases s.key with
    | none => rfl
    | some name =>
      rw [failure?_map, failure?_require]
      cases h : s.obstacle (.property name) <;> simp [h]
  rw [firstObstacle, checkpoints, List.findSome?_append, ← key, ← rules, ruleSet]
  apply failure?_bind
  intro k _
  rw [failure?_bind (o := none) _ fun _ _ => rfl]
  cases failure? (s.definition.properties.mapM s.bindAll) <;> rfl

theorem obstacle_property_eq_none_iff (s : Scan) (name : String) :
    s.obstacle (.property name) = none ↔ ∃ p, s.shape.property? name = some p := by
  cases h : s.shape.property? name <;> simp [obstacle, h]

theorem obstacle_handler_eq_none_iff (s : Scan) (name : String) (r : Rule) :
    s.obstacle (.handler name r) = none ↔ ∃ h, s.resolve r.operator = some h := by
  cases h : s.resolve r.operator <;> simp [obstacle, h]

theorem obstacle_binding_eq_none_iff {s : Scan} (pure : s.Pure) (name : String) (r : Rule) :
    s.obstacle (.binding name r) = none ↔ ∀ p h,
      s.shape.property? name = some p → s.resolve r.operator = some h →
        ∃ predicate, (h.build ⟨s.shape, p, r⟩).Settles (.ok predicate) := by
  cases hp : s.shape.property? name with
  | none => simp [obstacle, hp]
  | some p =>
    cases hr : s.resolve r.operator with
    | none => simp [obstacle, hp, hr]
    | some h =>
      simp [obstacle, hp, hr, failure?_eq_none_iff, (pure r.operator h hr).settles_iff]

/-- Nothing stands in the way exactly if there is no first obstacle. -/
theorem firstObstacle_eq_none_iff {s : Scan} (pure : s.Pure) :
    s.firstObstacle = none ↔ s.Clear := by
  simp only [firstObstacle, List.findSome?_eq_none_iff, checkpoints, List.forall_mem_append,
    List.forall_mem_map, List.forall_mem_flatMap, propertyCheckpoints, ruleCheckpoints,
    List.forall_mem_cons, obstacle_property_eq_none_iff, obstacle_handler_eq_none_iff,
    obstacle_binding_eq_none_iff pure, Option.mem_toList]
  constructor
  · rintro ⟨key, properties⟩
    exact
      { key := key
        declared := fun d hd => (properties d hd).1
        routed := fun d hd r hr => ((properties d hd).2 r hr).1
        bound := fun d hd r hr => ((properties d hd).2 r hr).2.1 }
  · intro clear
    exact ⟨clear.key, fun d hd => ⟨clear.declared d hd, fun r hr =>
      ⟨clear.routed d hd r hr, clear.bound d hd r hr, fun _ none => absurd none List.not_mem_nil⟩⟩⟩

/-- A scan fails with its first obstacle. -/
theorem ruleSet_eq_error_iff {s : Scan} {e : Misconfiguration} :
    s.ruleSet = .error e ↔ s.firstObstacle = some e := by
  rw [← failure?_ruleSet, failure?_eq_some_iff]

/-- A scan succeeds exactly if nothing stands in the way. -/
theorem exists_ruleSet_iff {s : Scan} (pure : s.Pure) : (∃ set, s.ruleSet = .ok set) ↔ s.Clear := by
  rw [← failure?_eq_none_iff, failure?_ruleSet, firstObstacle_eq_none_iff pure]

/-- A bound rule carries the declared one. -/
theorem carries_of_bind {s : Scan} (pure : s.Pure) {name : String} {p : Property}
    (hp : s.shape.property? name = some p) {r : Rule} {bound : BoundRule}
    (h : s.bind p r = .ok bound) : s.Carries (name, r) bound := by
  unfold bind at h
  split at h
  · cases h
  · rename_i handler routed
    split at h
    · cases h
    · rename_i predicate settled
      cases h
      rw [name_of_property? hp]
      exact ⟨p, handler, predicate, hp, routed,
        ((pure _ _ routed).settles_iff _ _).mpr settled, rfl⟩

/-- The rules of one declared property carry its declared rules. -/
theorem carries_of_bindAll {s : Scan} (pure : s.Pure) {d : DeclaredProperty}
    {rules : List BoundRule} (h : s.bindAll d = .ok rules) :
    List.Forall₂ s.Carries (d.rules.map fun r => (d.name, r)) rules := by
  obtain ⟨p, found, bound⟩ := bind_eq_ok_iff.mp h
  rw [List.forall₂_map_left_iff]
  exact (mapM_eq_ok_iff.mp bound).imp fun _ _ bound =>
    carries_of_bind pure (property?_of_require found) bound

theorem keyProperty_eq_ok {s : Scan} {key : Option Property} (h : s.keyProperty = .ok key) :
    key = s.key.bind s.shape.property? := by
  unfold keyProperty at h
  cases hk : s.key with
  | none =>
    rw [hk] at h
    exact (Except.ok.inj h).symm
  | some name =>
    simp only [hk] at h
    cases found : s.require name with
    | error e => rw [found] at h; cases h
    | ok p =>
      rw [found] at h
      rw [← Except.ok.inj h]
      exact (property?_of_require found).symm

/-- The rules of a set without caches carry the declared ones, in their order. -/
theorem ruleSet_eq_ok {s : Scan} (pure : s.Pure) {set : RuleSet} (h : s.ruleSet = .ok set) :
    set.entity = s.type ∧ set.key = s.key.bind s.shape.property? ∧
      List.Forall₂ s.Carries s.definition.declaredRules set.rules := by
  obtain ⟨key, found, h⟩ := bind_eq_ok_iff.mp h
  obtain ⟨rules, bound, same⟩ := bind_eq_ok_iff.mp h
  obtain rfl := Except.ok.inj same
  refine ⟨rfl, keyProperty_eq_ok found, ?_⟩
  have blocks : List.Forall₂ (List.Forall₂ s.Carries)
      (s.definition.properties.map fun d => d.rules.map fun r => (d.name, r)) rules := by
    rw [List.forall₂_map_left_iff]
    exact (mapM_eq_ok_iff.mp bound).imp fun _ _ bound => carries_of_bindAll pure bound
  have flat := List.rel_flatten blocks
  rwa [← List.flatMap_def] at flat

/-! ## 4. Growth -/

/-- A rule that is bound is bound alike when more operators are routed. -/
theorem bind_mono {s : Scan} {resolve : Operator → Option Handler}
    (more : ∀ op h, s.resolve op = some h → resolve op = some h) {p : Property} {r : Rule}
    {bound : BoundRule} (h : s.bind p r = .ok bound) :
    { s with resolve := resolve }.bind p r = .ok bound := by
  unfold bind at h ⊢
  split at h
  · cases h
  · rename_i handler routed
    dsimp only
    rw [more _ _ routed]
    exact h

/-- A rule set that is compiled is compiled alike when more operators are routed. -/
theorem ruleSet_mono {s : Scan} {resolve : Operator → Option Handler}
    (more : ∀ op h, s.resolve op = some h → resolve op = some h) {set : RuleSet}
    (h : s.ruleSet = .ok set) : { s with resolve := resolve }.ruleSet = .ok set := by
  obtain ⟨key, found, h⟩ := bind_eq_ok_iff.mp h
  obtain ⟨rules, bound, same⟩ := bind_eq_ok_iff.mp h
  refine bind_eq_ok_iff.mpr ⟨key, found, bind_eq_ok_iff.mpr ⟨rules, ?_, same⟩⟩
  refine mapM_eq_ok_iff.mpr ((mapM_eq_ok_iff.mp bound).imp fun d _ bound => ?_)
  obtain ⟨p, found, bound⟩ := bind_eq_ok_iff.mp bound
  refine bind_eq_ok_iff.mpr ⟨p, found, mapM_eq_ok_iff.mpr ?_⟩
  exact (mapM_eq_ok_iff.mp bound).imp fun _ _ bound => bind_mono more bound

end Scan

end Rulebook
