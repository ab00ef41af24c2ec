/-
Rulebook.RuleSet — rules bound to one type of entities.

A compiled rule carries its verdict on every entity; a rule set lists the
compiled rules of one entity type in declaration order, with the property that
serves as the key.
-/
import Rulebook.Misconfiguration

namespace Rulebook

/-- A verdict on every entity; `true` means that the rule holds. -/
def Predicate := Entity → Bool

/-- A declared rule bound to one entity type. -/
structure BoundRule where
  property : String
  operator : Operator
  predicate : Predicate
  message : String
  severity : Severity

/-- Whether the rule holds for an entity. -/
def BoundRule.holds (r : BoundRule) (e : Entity) : Bool := r.predicate e

/-- The compiled rules of one entity type. -/
structure RuleSet where
  entity : EntityType
  key : Option Property
  rules : List BoundRule

/-- The key of one entity; an absent value is no key. -/
def RuleSet.keyOf (s : RuleSet) (e : Entity) : Option Value :=
  (s.key.map (·.read e)).filter fun v => !v.isNull

end Rulebook
