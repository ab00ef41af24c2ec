/-
Rulebook.Proofs.Compilation.ScanOrder — where a scan ends, and where it ends once
more operators are routed.

A scan ends at the first checkpoint that has an obstacle.  Routing more operators
takes no passed checkpoint back, and of the obstacles it removes those of missing
handlers alone.  So a scan that ended elsewhere ends there again, with the same
error; a scan that ended for want of a handler ends there again or goes on, to the
binding of the same rule at once and to later checkpoints after that.

  §1 Pairs  — the binding of a rule stands right after its handler.
  §2 Ends   — the place of the first obstacle.
  §3 Growth — the same scan with more operators routed.

The pairs are needed since a binding without a handler has no obstacle of its own:
a handler that comes later may refuse what nobody had looked at before.  No such
binding has been passed, since its handler would have been found missing first.
-/
import Rulebook.Proofs.Compilation.ScanTheorems

namespace Rulebook

/-- The compilation has failed for a reason that no further handler removes: the shape lacks a
property, or a rule has been refused. -/
def Misconfiguration.isPermanent : Misconfiguration → Bool
  | .unknownProperty _ _ _ => true
  | .binding _ _ _ _ => true
  | .handlerNotFound _ _ _ => false
  | .missingBinding _ => false
  | .duplicateBinding _ _ _ => false

/-! ## 1. Pairs -/

/-- Handlers and bindings stand in pairs of one rule each. -/
inductive Checkpoint.Paired : List Checkpoint → Prop
  | nil : Paired []
  | property (name : String) {rest : List Checkpoint} (paired : Paired rest) :
      Paired (.property name :: rest)
  | rule (name : String) (rule : Rule) {rest : List Checkpoint} (paired : Paired rest) :
      Paired (.handler name rule :: .binding name rule :: rest)

namespace Checkpoint

/-- The operator for which the checkpoint needs a handler. -/
def operator? : Checkpoint → Option Operator
  | .property _ => none
  | .handler _ rule => some rule.operator
  | .binding _ rule => some rule.operator

namespace Paired

variable {xs ys : List Checkpoint} {place : Nat} {name : String} {rule : Rule}

theorem append (hx : Paired xs) (hy : Paired ys) : Paired (xs ++ ys) := by
  induction hx with
  | nil => exact hy
  | property name _ ih => exact ih.property name
  | rule name rule _ ih => exact ih.rule name rule

theorem flatMap {α : Type} {f : α → List Checkpoint} (as : List α) (h : ∀ a, Paired (f a)) :
    Paired (as.flatMap f) := by
  induction as with
  | nil => exact .nil
  | cons a as ih => exact (h a).append ih

/-- A handler has the binding of its rule after it. -/
theorem next (paired : Paired xs) (here : xs[place]? = some (.handler name rule)) :
    xs[place + 1]? = some (.binding name rule) := by
  induction paired generalizing place with
  | nil => cases here
  | property other _ ih =>
    cases place with
    | zero => cases here
    | succ place => exact ih here
  | rule other rule' _ ih =>
    match place with
    | 0 => cases here; rfl
    | 1 => cases here
    | place + 2 => exact ih here

/-- A binding has the handler of its rule before it. -/
theorem handler_mem_take (paired : Paired xs) (mem : .binding name rule ∈ xs.take place) :
    .handler name rule ∈ xs.take place := by
  induction paired generalizing place with
  | nil => simp at mem
  | property other _ ih =>
    cases place with
    | zero => cases mem
    | succ place =>
      have later := (List.mem_cons.mp mem).resolve_left Checkpoint.noConfusion
      exact List.mem_cons_of_mem _ (ih later)
  | rule other rule' _ ih =>
    match place with
    | 0 => cases mem
    | 1 => simp at mem
    | place + 2 =>
      rw [List.take_succ_cons, List.take_succ_cons] at mem ⊢
      rcases List.mem_cons.mp mem with same | mem
      · cases same
      · rcases List.mem_cons.mp mem with same | mem
        · cases same
          exact List.mem_cons_self
        · exact List.mem_cons_of_mem _ (List.mem_cons_of_mem _ (ih mem))

end Paired
end Checkpoint

namespace Scan

theorem paired_propertyCheckpoints (p : DeclaredProperty) :
    Checkpoint.Paired (propertyCheckpoints p) :=
  .property _ (.flatMap _ fun rule => .rule _ rule .nil)

theorem paired_checkpoints (s : Scan) : Checkpoint.Paired s.checkpoints := by
  have key : Checkpoint.Paired (s.key.toList.map .property) := by
    cases s.key with
    | none => exact .nil
    | some name => exact .property name .nil
  exact key.append (.flatMap _ paired_propertyCheckpoints)

/-! ## 2. Ends -/

/-- The scan ends at a place of its checkpoints: there is an obstacle, and none has come before. -/
structure EndsAt (s : Scan) (place : Nat) (checkpoint : Checkpoint) (e : Misconfiguration) :
    Prop where
  here : s.checkpoints[place]? = some checkpoint
  blocked : s.obstacle checkpoint = some e
  passed : ∀ c ∈ s.checkpoints.take place, s.obstacle c = none

variable {s : Scan} {place : Nat} {checkpoint : Checkpoint} {e : Misconfiguration}
  {name : String} {rule : Rule}

theorem firstObstacle_eq_some_iff :
    s.firstObstacle = some e ↔ ∃ place checkpoint, s.EndsAt place checkpoint e := by
  rw [firstObstacle, List.findSome?_eq_some_iff]
  constructor
  · rintro ⟨before, checkpoint, after, same, blocked, passed⟩
    refine ⟨before.length, checkpoint, ?_, blocked, ?_⟩
    · rw [same, List.getElem?_append_right (Nat.le_refl _), Nat.sub_self, List.getElem?_cons_zero]
    · rwa [same, List.take_left]
  · rintro ⟨place, checkpoint, here, blocked, passed⟩
    obtain ⟨inside, rfl⟩ := List.getElem?_eq_some_iff.mp here
    refine ⟨_, _, s.checkpoints.drop (place + 1), ?_, blocked, passed⟩
    rw [← List.drop_eq_getElem_cons inside, List.take_append_drop]

/-- A scan fails where it ends. -/
theorem EndsAt.ruleSet_eq (ended : s.EndsAt place checkpoint e) : s.ruleSet = .error e :=
  ruleSet_eq_error_iff.mpr (firstObstacle_eq_some_iff.mpr ⟨place, checkpoint, ended⟩)

theorem exists_endsAt (failed : s.ruleSet = .error e) :
    ∃ place checkpoint, s.EndsAt place checkpoint e :=
  firstObstacle_eq_some_iff.mp (ruleSet_eq_error_iff.mp failed)

/-- A scan gets at least as far as checkpoints are passed. -/
theorem EndsAt.le_of_passed (ended : s.EndsAt place checkpoint e) {reached : Nat}
    (passed : ∀ c ∈ s.checkpoints.take reached, s.obstacle c = none) : reached ≤ place := by
  by_contra short
  have mem : checkpoint ∈ s.checkpoints.take reached := by
    apply List.mem_of_getElem?
    rw [List.getElem?_take_of_lt (Nat.lt_of_not_le short)]
    exact ended.here
  exact nomatch (passed checkpoint mem).symm.trans ended.blocked

/-- What is passed has handlers where it needs them. -/
theorem routed_of_passed (passed : ∀ c ∈ s.checkpoints.take place, s.obstacle c = none)
    {c : Checkpoint} (mem : c ∈ s.checkpoints.take place) :
    ∀ op, c.operator? = some op → ∃ h, s.resolve op = some h := by
  cases c with
  | property name => exact fun op none => nomatch none
  | handler name rule =>
    rintro op ⟨⟩
    exact (s.obstacle_handler_eq_none_iff name rule).mp (passed _ mem)
  | binding name rule =>
    rintro op ⟨⟩
    have handler := s.paired_checkpoints.handler_mem_take mem
    exact (s.obstacle_handler_eq_none_iff name rule).mp (passed _ handler)

/-- What ends a scan for good has a handler if it needs one. -/
theorem routed_of_permanent (blocked : s.obstacle checkpoint = some e) (permanent : e.isPermanent) :
    ∀ op, checkpoint.operator? = some op → ∃ h, s.resolve op = some h := by
  cases checkpoint with
  | property name => exact fun op none => nomatch none
  | handler name rule =>
    -- what a handler checkpoint ends with is not permanent
    simp only [obstacle] at blocked
    split at blocked <;> cases blocked
    cases permanent
  | binding name rule =>
    rintro op ⟨⟩
    simp only [obstacle] at blocked
    split at blocked
    · rename_i h _ routed
      exact ⟨h, routed⟩
    · cases blocked

/-- A scan ends for good, or at a rule whose operator is not routed. -/
theorem EndsAt.permanent_or_handler (ended : s.EndsAt place checkpoint e) :
    e.isPermanent ∨ ∃ name rule, checkpoint = .handler name rule ∧
      s.resolve rule.operator = none ∧ e = .handlerNotFound rule.operator s.type name := by
  have blocked := ended.blocked
  cases checkpoint with
  | property name =>
    simp only [obstacle] at blocked
    split at blocked <;> cases blocked
    exact .inl rfl
  | handler name rule =>
    simp only [obstacle] at blocked
    split at blocked
    · cases blocked
    · rename_i unrouted
      cases blocked
      exact .inr ⟨name, rule, rfl, Option.not_isSome_iff_eq_none.mp unrouted, rfl⟩
  | binding name rule =>
    simp only [obstacle] at blocked
    split at blocked
    · obtain ⟨reason, -, rfl⟩ := Option.map_eq_some_iff.mp blocked
      exact .inl rfl
    · cases blocked

/-! ## 3. Growth -/

section Growth

variable {resolve : Operator → Option Handler}
  (more : ∀ op h, s.resolve op = some h → resolve op = some h)

include more

/-- Where a handler has been found if one is needed, the obstacle stays what it is. -/
theorem obstacle_grow (routed : ∀ op, checkpoint.operator? = some op → ∃ h, s.resolve op = some h) :
    { s with resolve := resolve }.obstacle checkpoint = s.obstacle checkpoint := by
  cases checkpoint with
  | property name => rfl
  | handler name rule =>
    obtain ⟨h, found⟩ := routed rule.operator rfl
    simp only [obstacle, found, more _ _ found]
  | binding name rule =>
    obtain ⟨h, found⟩ := routed rule.operator rfl
    simp only [obstacle, found, more _ _ found]

/-- What is passed stays passed. -/
theorem passed_grow (passed : ∀ c ∈ s.checkpoints.take place, s.obstacle c = none) :
    ∀ c ∈ s.checkpoints.take place, { s with resolve := resolve }.obstacle c = none := by
  intro c mem
  rw [obstacle_grow more (routed_of_passed passed mem)]
  exact passed c mem

/-- A scan that did not end for want of a handler ends at the same place with the same error. -/
theorem EndsAt.grow_of_routed (ended : s.EndsAt place checkpoint e)
    (routed : ∀ op, checkpoint.operator? = some op → ∃ h, s.resolve op = some h) :
    { s with resolve := resolve }.EndsAt place checkpoint e :=
  ⟨ended.here, (obstacle_grow more routed).trans ended.blocked,
    passed_grow (s := s) more ended.passed⟩

/-- So does one that still lacks the handler. -/
theorem EndsAt.grow_of_unrouted (ended : s.EndsAt place (.handler name rule) e)
    (unrouted : resolve rule.operator = none) :
    { s with resolve := resolve }.EndsAt place (.handler name rule) e := by
  have before : s.resolve rule.operator = none := by
    by_contra some
    obtain ⟨h, found⟩ := Option.ne_none_iff_exists'.mp some
    exact nomatch (more _ _ found).symm.trans unrouted
  have blocked := ended.blocked
  simp only [obstacle, before] at blocked
  refine ⟨ended.here, ?_, passed_grow (s := s) more ended.passed⟩
  simp only [obstacle, unrouted]
  exact blocked

/-- One that has got its handler goes on: it ends later if it ends, and if right after that, then
because the handler refuses the very rule. -/
theorem EndsAt.grow_of_handler (ended : s.EndsAt place (.handler name rule) e) {h : Handler}
    (found : resolve rule.operator = some h) {place' : Nat} {checkpoint' : Checkpoint}
    {e' : Misconfiguration}
    (ended' : { s with resolve := resolve }.EndsAt place' checkpoint' e') :
    place < place' ∧
      (place' = place + 1 → checkpoint' = .binding name rule ∧
        ∃ property reason, s.shape.property? name = some property ∧
          (h.build ⟨s.shape, property, rule⟩).outcome = .error reason ∧
          e' = .binding s.type name rule.operator reason) := by
  have passed : ∀ c ∈ s.checkpoints.take (place + 1),
      { s with resolve := resolve }.obstacle c = none := by
    intro c mem
    rw [List.take_add_one, ended.here, Option.toList_some, List.mem_append] at mem
    rcases mem with mem | mem
    · exact passed_grow more ended.passed c mem
    · rw [List.mem_singleton.mp mem, obstacle_handler_eq_none_iff]
      exact ⟨h, found⟩
  refine ⟨ended'.le_of_passed passed, fun next => ?_⟩
  have binding : checkpoint' = .binding name rule := by
    have here := ended'.here
    rw [next] at here
    exact Option.some.inj (here.symm.trans (s.paired_checkpoints.next ended.here))
  refine ⟨binding, ?_⟩
  have blocked := ended'.blocked
  rw [binding] at blocked
  simp only [obstacle, found] at blocked
  cases property : s.shape.property? name with
  | none => rw [property] at blocked; cases blocked
  | some p =>
    rw [property] at blocked
    obtain ⟨reason, failed, same⟩ := Option.map_eq_some_iff.mp blocked
    exact ⟨p, reason, rfl, failure?_eq_some_iff.mp failed, same.symm⟩

end Growth
end Scan
end Rulebook
