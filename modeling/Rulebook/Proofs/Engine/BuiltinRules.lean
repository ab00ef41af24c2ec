/-
Rulebook.Proofs.Engine.BuiltinRules — rules of the built-in operators, and what
leniency does to them.

A rule whose operator is routed to the library's own handler has become, in the
rule set of its type, the predicate of a comparison.  A lenient rule asks for the
same comparison as the strict one.

  §1 Rules    — a declared rule and the comparison that it asks for.
  §2 Leniency — an absent operand passes; all else is judged as by the strict rule.
-/
import Rulebook.Handler.Matching
import Rulebook.Proofs.Engine.CompiledRules
import Rulebook.Proofs.Handler.BuiltinHandlers

namespace Rulebook

section Builtin

variable [Patterns]

/-! ## 1. Rules -/

/-- The engine answers a request for the type with the rule set; the rule is declared at the place
for the property of that name, and its operator is routed to the library's own handler. -/
structure Engine.HasBuiltinRule (catalog : Catalog) (g : Engine) (type : EntityType) (set : RuleSet)
    (place : Nat) (name : String) (rule : Rule) : Prop where
  reachable : g.Reachable catalog
  answered : (g.ruleSet catalog type).1 = .ok set
  declared : ∃ m, g.bindings.table.get? type = some m ∧
    (catalog.definition m).declaredRules[place]? = some (name, rule)
  routed : ∃ h, g.registry.resolve rule.operator = some h ∧ h.IsBuiltin rule.operator

namespace Engine.HasBuiltinRule

variable {catalog : Catalog} {g : Engine} {type : EntityType} {set : RuleSet} {place : Nat}
  {name : String} {rule : Rule}

/-- The rule has become the predicate of the comparison that it asks for. -/
theorem comparison (has : g.HasBuiltinRule catalog type set place name rule) :
    ∃ property c r, (catalog.shape type).property? name = some property ∧
      set.rules[place]? = some r ∧
      Comparison.IsFor ⟨catalog.shape type, property, rule⟩ c ∧
      r.predicate = c.predicate property rule.allowsNull := by
  obtain ⟨m, bound, declared⟩ := has.declared
  obtain ⟨h, routed, builtin⟩ := has.routed
  have later : (g.ruleSet catalog type).2.Reachable catalog := has.reachable.run [.ruleSet type]
  have cached := Engine.cached_of_ruleSet has.answered
  obtain ⟨property, r, found, at_place, built⟩ :=
    later.bound_of_declared cached bound declared routed builtin.direct
  obtain ⟨c, isFor, same⟩ := Handler.IsBuiltin.comparison_of_build builtin built
  exact ⟨property, c, r, found, at_place, isFor, same⟩

end Engine.HasBuiltinRule

/-! ## 2. Leniency -/

/-- The lenient rule passes exactly where an operand is absent or the strict one passes. -/
theorem Comparison.IsFor.lenient_iff {t : Target} {c : Comparison} (isFor : c.IsFor t) {e : Entity}
    (reads : t.rule.operator = .matching →
      (t.property.read e).isNull = true ∨ ∃ s, t.property.read e = .text s) :
    c.predicate t.property true e = true ↔
      (t.property.read e).isNull = true ∨ (c.right.read e).isNull = true ∨
        c.predicate t.property false e = true := by
  have judged : c.judgement.Reads (t.property.read e) := by
    have operator := isFor.operator
    cases hj : c.judgement with
    | ordering relation => trivial
    | equality negated => trivial
    | matching test =>
      rw [hj] at operator
      exact reads operator.symm
  unfold predicate
  rw [c.judgement.verdict_lenient judged (isFor.right_present e), Bool.or_eq_true, Bool.or_eq_true,
    or_assoc]

/-- Every built-in handler binds or refuses a rule alike, with the same refusal, whether the rule is
lenient or not; and where it binds it, the lenient rule passes exactly where an operand is absent or
the strict one passes (for patterns, wherever the property yields a text, if anything).  In the rule
set of any engine that routes the operator to its built-in handler, a lenient rule with an absent
operand holds and shows in no failures, in either mode; and a lenient rule holds wherever its strict
counterpart does. -/
theorem null_leniency :
    (∀ (h : Handler) (t : Target), h.IsBuiltin t.rule.operator →
      ∃ strict lenient, h.build (t.lenient false) = .done strict ∧
        h.build (t.lenient true) = .done lenient ∧ failure? strict = failure? lenient ∧
        ∀ p q, strict = .ok p → lenient = .ok q →
          ∃ right, t.operand = .ok right ∧ ∀ e, let left := t.property.read e
            (t.rule.operator = .matching → left.isNull = true ∨ ∃ s, left = .text s) →
            (q e = true ↔ left.isNull = true ∨ (right.read e).isNull = true ∨ p e = true)) ∧
      (∀ catalog g type set place name rule,
        Engine.HasBuiltinRule catalog g type set place name rule → rule.allowsNull = true →
        ∃ property right r, (catalog.shape type).property? name = some property ∧
          Target.operand ⟨catalog.shape type, property, rule⟩ = .ok right ∧
          set.rules[place]? = some r ∧
          ∀ e, (property.read e).isNull = true ∨ (right.read e).isNull = true →
            r.holds e = true ∧
              ∀ mode, failuresOf mode e (set.rules.eraseIdx place) = failuresOf mode e set.rules) ∧
      ∀ catalog g type set place name rule catalog' g' type' set' place',
        Engine.HasBuiltinRule catalog g type set place name rule →
        Engine.HasBuiltinRule catalog' g' type' set' place' name { rule with allowsNull := true } →
        catalog.shape type = catalog'.shape type' → rule.allowsNull = false →
        ∃ r r', set.rules[place]? = some r ∧ set'.rules[place']? = some r' ∧
          ∀ e, r.holds e = true → r'.holds e = true := by
  refine ⟨?_, ?_, ?_⟩
  · intro h t builtin
    obtain ⟨x, bound, isFor⟩ := builtin.build_lenient
    refine ⟨_, _, bound false, bound true, ?_, ?_⟩
    · cases x <;> rfl
    · intro p q
      cases x with
      | error e => exact fun strict => nomatch strict
      | ok c =>
        rintro ⟨⟩ ⟨⟩
        exact ⟨c.right, (isFor c rfl).operand, fun e reads => (isFor c rfl).lenient_iff reads⟩
  · intro catalog g type set place name rule has lenient
    obtain ⟨property, c, r, found, at_place, isFor, predicate⟩ := has.comparison
    refine ⟨property, c.right, r, found, isFor.operand, at_place, fun e absent => ?_⟩
    have holds : r.holds e = true := by
      rw [BoundRule.holds, predicate, lenient]
      exact c.judgement.verdict_of_absent (isFor.right_present e) absent
    exact ⟨holds, fun mode => failuresOf_eraseIdx at_place holds⟩
  · intro catalog g type set place name rule catalog' g' type' set' place' has has' shape strict
    obtain ⟨property, c, r, found, at_place, isFor, predicate⟩ := has.comparison
    obtain ⟨property', c', r', found', at_place', isFor', predicate'⟩ := has'.comparison
    rw [← shape] at found' isFor'
    obtain rfl : property = property' := Option.some.inj (found.symm.trans found')
    obtain rfl : c = c' := isFor.unique (Comparison.isFor_lenient.mp isFor')
    refine ⟨r, r', at_place, at_place', fun e holds => ?_⟩
    rw [BoundRule.holds, predicate, strict] at holds
    rw [BoundRule.holds, predicate']
    exact c.judgement.verdict_mono holds

end Builtin

/-! ### Bookings -/

/-- Bookings end after they start, if they end. -/
def bookingRule (lenient : Bool) : Rule :=
  { operator := .greaterThan, sibling := some "start", allowsNull := lenient }

/-- Bookings, whose end may be absent, with a lenient rule or a strict one. -/
def bookings (lenient : Bool) : Catalog where
  shape _ := ⟨"Booking", [⟨"start", 0, .int, false⟩, ⟨"end", 1, .int, true⟩]⟩
  definition _ := .ofSteps [⟨"end", [.rule (bookingRule lenient)]⟩]
  entries := []
  standardModule := "standard"

/-- An engine with the handler of the ordering operators, where bookings are bound. -/
def bookingEngine (lenient : Bool) : Engine :=
  ((Engine.ofSettings (bookings lenient) { builtinHandlers := false }).run (bookings lenient)
    [.register (.ordering "Ordering"), .bind ⟨"Booking"⟩ ⟨"BookingRules"⟩]).2

/-- A booking without an end passes the lenient rule, and every booking that passes the strict rule
passes the lenient one. -/
theorem null_leniency_bookings :
    let open_ended := Entity.ofList [.int 3, .null]
    ∃ set r set' r',
      Engine.HasBuiltinRule (bookings false) (bookingEngine false) ⟨"Booking"⟩ set 0 "end"
          (bookingRule false) ∧
        Engine.HasBuiltinRule (bookings true) (bookingEngine true) ⟨"Booking"⟩ set' 0 "end"
          (bookingRule true) ∧
        set.rules[0]? = some r ∧ set'.rules[0]? = some r' ∧
        (∀ e, r.holds e = true → r'.holds e = true) ∧
        r.holds open_ended = false ∧ r'.holds open_ended = true ∧
        ∀ mode, failuresOf mode open_ended (set'.rules.eraseIdx 0)
          = failuresOf mode open_ended set'.rules := by
  intro open_ended
  have builtin : (Handler.ordering "Ordering").IsBuiltin .greaterThan := .ordering _ (by decide)
  have has : ∀ lenient, ∃ set r, set.rules[0]? = some r ∧ r.holds open_ended = lenient ∧
      Engine.HasBuiltinRule (bookings lenient) (bookingEngine lenient) ⟨"Booking"⟩ set 0 "end"
        (bookingRule lenient) :=
    fun lenient =>
      ⟨_, _, rfl, rfl, ⟨⟨_, _, rfl⟩, rfl, ⟨⟨"BookingRules"⟩, rfl, rfl⟩, ⟨_, rfl, builtin⟩⟩⟩
  obtain ⟨set, r, at_place, fails, strict⟩ := has false
  obtain ⟨set', r', at_place', -, lenient⟩ := has true
  obtain ⟨-, passes, mono⟩ := null_leniency
  obtain ⟨_, right, _, ⟨⟩, ⟨⟩, same', holds⟩ := passes _ _ _ set' 0 "end" _ lenient rfl
  obtain rfl := Option.some.inj (at_place'.symm.trans same')
  obtain ⟨holds, unseen⟩ := holds open_ended (.inl rfl)
  obtain ⟨_, _, same, same', mono⟩ := mono _ _ _ set 0 "end" _ _ _ _ set' 0 strict lenient rfl rfl
  obtain rfl := Option.some.inj (at_place.symm.trans same)
  obtain rfl := Option.some.inj (at_place'.symm.trans same')
  exact ⟨set, r, set', r', strict, lenient, at_place, at_place', mono, fails, holds, unseen⟩

end Rulebook
