/-
Rulebook.Proofs.Compilation.ParallelScans — two scans side by side, of definitions
or shapes that differ.

`Agreement` runs one definition twice, from different caches, and there the two
results are equal.  Here the caches are out of the way, and it is the inputs that
differ: a shape that is laid out otherwise, rules that are worded otherwise.  What
the two results then have in common depends on what the inputs have in common, so
that the relations of properties, of rules, of bound rules and of errors are
parameters.

  §1 Results     — two computations that both fail or both succeed.
  §2 Definitions — the same properties, with rules related one by one.
  §3 Rule sets   — a scan binds related rules in order, up to the same obstacle.
-/
import Rulebook.Proofs.Compilation.ScanTheorems

namespace Rulebook

/-! ## 1. Results -/

/-- Both computations fail, with related errors, or both succeed, with related results. -/
inductive Parallel {ε α β : Type} (bad : ε → ε → Prop) (good : α → β → Prop) :
    Except ε α → Except ε β → Prop
  | error {e e' : ε} (h : bad e e') : Parallel bad good (.error e) (.error e')
  | ok {a : α} {b : β} (h : good a b) : Parallel bad good (.ok a) (.ok b)

namespace Parallel

variable {ε α β γ δ : Type} {bad : ε → ε → Prop} {good : α → β → Prop} {best : γ → δ → Prop}

theorem mono {better : α → β → Prop} {x : Except ε α} {y : Except ε β}
    (h : Parallel bad better x y) (weaker : ∀ a b, better a b → good a b) :
    Parallel bad good x y := by
  cases h with
  | error h => exact .error h
  | ok h => exact .ok (weaker _ _ h)

theorem bind {x : Except ε α} {y : Except ε β} {f : α → Except ε γ} {g : β → Except ε δ}
    (hx : Parallel bad good x y) (hf : ∀ a b, good a b → Parallel bad best (f a) (g b)) :
    Parallel bad best (x >>= f) (y >>= g) := by
  cases hx with
  | error h => exact .error h
  | ok h => exact hf _ _ h

/-- Steps for the elements of related lists, in order, up to the first failure. -/
theorem mapM {rel : γ → δ → Prop} {f : γ → Except ε α} {g : δ → Except ε β} {xs : List γ}
    {ys : List δ} (related : List.Forall₂ rel xs ys)
    (step : ∀ x y, rel x y → Parallel bad good (f x) (g y)) :
    Parallel bad (List.Forall₂ good) (xs.mapM f) (ys.mapM g) := by
  induction related with
  | nil => exact .ok .nil
  | cons head _ ih =>
    rw [List.mapM_cons, List.mapM_cons]
    refine (step _ _ head).bind fun a b first => ?_
    exact ih.bind fun as bs rest => .ok (.cons first rest)

/-- Results that are parallel with respect to equality are equal. -/
theorem eq {x y : Except ε α} (h : Parallel Eq Eq x y) : x = y := by
  cases h with
  | error h => rw [h]
  | ok h => rw [h]

theorem error_iff {x : Except ε α} {y : Except ε β} (h : Parallel Eq good x y) (e : ε) :
    x = .error e ↔ y = .error e := by
  cases h with
  | error h => rw [h]; simp
  | ok _ => simp

theorem exists_ok {x : Except ε α} {y : Except ε β} {a : α} (h : Parallel bad good x y)
    (succeeded : x = .ok a) : ∃ b, y = .ok b ∧ good a b := by
  cases h with
  | error _ => cases succeeded
  | ok h => cases succeeded; exact ⟨_, rfl, h⟩

/-- Either both computations fail or both succeed. -/
theorem error_or_ok {x : Except ε α} {y : Except ε β} (h : Parallel bad good x y) :
    (∃ e e', x = .error e ∧ y = .error e' ∧ bad e e') ∨
      ∃ a b, x = .ok a ∧ y = .ok b ∧ good a b := by
  cases h with
  | error h => exact .inl ⟨_, _, rfl, rfl, h⟩
  | ok h => exact .inr ⟨_, _, rfl, rfl, h⟩

end Parallel

section Related

variable {α β γ : Type} {good better : α → β → Prop} {f : α → γ} {g : β → γ}

theorem optionRel_refl (x : Option α) : Option.Rel Eq x x := by
  cases x with
  | none => exact .none
  | some a => exact .some rfl

/-- Optional results that are related are so by every weaker relation. -/
theorem optionRel_mono {x : Option α} {y : Option β} (h : Option.Rel better x y)
    (weaker : ∀ a b, better a b → good a b) : Option.Rel good x y := by
  cases h with
  | none => exact .none
  | some h => exact .some (weaker _ _ h)

theorem map_eq_of_optionRel {x : Option α} {y : Option β}
    (h : Option.Rel (fun a b => g b = f a) x y) : y.map g = x.map f := by
  cases h with
  | none => rfl
  | some same => exact congrArg some same

theorem map_eq_of_forall₂ {xs : List α} {ys : List β}
    (h : List.Forall₂ (fun a b => g b = f a) xs ys) : ys.map g = xs.map f := by
  induction h with
  | nil => rfl
  | cons same _ ih => rw [List.map_cons, List.map_cons, same, ih]

end Related

/-! ## 2. Definitions -/

/-- The declared properties have the same name and the same mark, and their rules are related one by
one. -/
structure DeclaredProperty.Resembles (rel : Rule → Rule → Prop) (d d' : DeclaredProperty) :
    Prop where
  name : d'.name = d.name
  isKey : d'.isKey = d.isKey
  rules : List.Forall₂ rel d.rules d'.rules

/-- The definitions declare the same properties, and rules that are related one by one. -/
def Definition.Resembles (rel : Rule → Rule → Prop) (d d' : Definition) : Prop :=
  List.Forall₂ (DeclaredProperty.Resembles rel) d.properties d'.properties

namespace Definition.Resembles

variable {rel : Rule → Rule → Prop} {d d' : Definition}

theorem refl (h : ∀ r, rel r r) (d : Definition) : d.Resembles rel d :=
  List.forall₂_same.mpr fun _ _ => ⟨rfl, rfl, List.forall₂_same.mpr fun r _ => h r⟩

/-- Definitions that resemble each other have the same key. -/
theorem entityKey_eq (h : d.Resembles rel d') : d'.entityKey = d.entityKey := by
  obtain ⟨properties⟩ := d
  obtain ⟨properties'⟩ := d'
  unfold Resembles at h
  unfold Definition.entityKey
  dsimp only at h ⊢
  induction h with
  | nil => rfl
  | cons head _ ih =>
    rw [List.find?_cons, List.find?_cons, head.isKey]
    split
    · rw [Option.map_some, Option.map_some, head.name]
    · exact ih

/-- The declared rules are related in their order, each declared for the same property. -/
theorem declaredRules (h : d.Resembles rel d') :
    List.Forall₂ (fun a b => b.1 = a.1 ∧ rel a.2 b.2) d.declaredRules d'.declaredRules := by
  refine List.rel_flatMap h fun p p' same => ?_
  rw [List.forall₂_map_left_iff, List.forall₂_map_right_iff]
  exact same.rules.imp fun _ _ related => ⟨same.name, related⟩

/-- What holds of all rules of the first definition may be put into the relation. -/
theorem and_left {known : Rule → Prop} (h : d.Resembles rel d')
    (all : ∀ p ∈ d.properties, ∀ r ∈ p.rules, known r) :
    d.Resembles (fun r r' => known r ∧ rel r r') d' := by
  have both := (List.forall₂_and_left _ _).mpr ⟨all, h⟩
  exact both.imp fun p p' same =>
    ⟨same.2.name, same.2.isKey, (List.forall₂_and_left _ _).mpr ⟨same.1, same.2.rules⟩⟩

end Definition.Resembles

/-! ## 3. Rule sets -/

/-- Equal shapes have the same property under every name. -/
theorem Shape.property?_related {shape shape' : Shape} (same : shape' = shape) (name : String) :
    Option.Rel Eq (shape.property? name) (shape'.property? name) := by
  rw [same]
  exact optionRel_refl _

/-- The rule sets are for the same type, have related keys, and related rules one by one. -/
structure RuleSet.Alike (rel : Property → Property → Prop) (bound : BoundRule → BoundRule → Prop)
    (set set' : RuleSet) : Prop where
  entity : set'.entity = set.entity
  key : Option.Rel rel set.key set'.key
  rules : List.Forall₂ bound set.rules set'.rules

namespace Scan

/-- The scans meet related errors at the same obstacles. -/
structure ErrorsMatch (bad : Misconfiguration → Misconfiguration → Prop) (s s' : Scan) : Prop where
  unknown : ∀ name,
    bad (.unknownProperty s.type s.metadata name) (.unknownProperty s'.type s'.metadata name)
  unrouted : ∀ op name, bad (.handlerNotFound op s.type name) (.handlerNotFound op s'.type name)
  refused : ∀ name op reason,
    bad (.binding s.type name op reason) (.binding s'.type name op reason)

theorem errorsMatch_eq {s s' : Scan} (type : s'.type = s.type)
    (metadata : s'.metadata = s.metadata) : s.ErrorsMatch Eq s' := by
  constructor <;> intros <;> simp [type, metadata]

variable {bad : Misconfiguration → Misconfiguration → Prop} {s s' : Scan}
  {rel : Property → Property → Prop} {bound : BoundRule → BoundRule → Prop}

theorem require_parallel (errors : s.ErrorsMatch bad s') {name : String}
    (found : Option.Rel rel (s.shape.property? name) (s'.shape.property? name)) :
    Parallel bad rel (s.require name) (s'.require name) := by
  unfold require
  generalize s.shape.property? name = p, s'.shape.property? name = p' at found
  cases found with
  | none => exact .error (errors.unknown name)
  | some h => exact .ok h

theorem keyProperty_parallel (errors : s.ErrorsMatch bad s') (key : s'.key = s.key)
    (found : ∀ name, Option.Rel rel (s.shape.property? name) (s'.shape.property? name)) :
    Parallel bad (Option.Rel rel) s.keyProperty s'.keyProperty := by
  unfold keyProperty
  rw [key]
  cases s.key with
  | none => exact .ok .none
  | some name =>
    exact (require_parallel errors (found name)).bind fun _ _ h => .ok (.some h)

/-- Scans of definitions that resemble each other bind related rules, or fail at the same obstacle,
if the shapes have related properties under every name and related rules are bound alike. -/
theorem ruleSet_parallel {declared : Rule → Rule → Prop} (errors : s.ErrorsMatch bad s')
    (type : s'.type = s.type) (key : s'.key = s.key)
    (found : ∀ name, Option.Rel rel (s.shape.property? name) (s'.shape.property? name))
    (resembles : s.definition.Resembles declared s'.definition)
    (binds : ∀ r r' p p', declared r r' → rel p p' →
      Parallel bad bound (s.bind p r) (s'.bind p' r')) :
    Parallel bad (RuleSet.Alike rel bound) s.ruleSet s'.ruleSet := by
  have blocks : ∀ d d', DeclaredProperty.Resembles declared d d' →
      Parallel bad (List.Forall₂ bound) (s.bindAll d) (s'.bindAll d') := by
    intro d d' same
    unfold bindAll
    rw [same.name]
    refine (require_parallel errors (found d.name)).bind fun p p' h => ?_
    exact Parallel.mapM same.rules fun r r' related => binds r r' p p' related h
  refine (keyProperty_parallel errors key found).bind fun k k' keys => ?_
  refine (Parallel.mapM resembles blocks).bind fun rules rules' related => ?_
  exact .ok ⟨type, keys, List.rel_flatten related⟩

end Scan
end Rulebook
