/-
Rulebook.Proofs.Engine.StandardHandlers — nobody takes the built-in operators over.

An engine that is set up with the standard handlers discovers them before anything
else, so that each built-in operator is claimed when others can first lay claim to
it; and what is claimed stays claimed.  Hence rules of built-in operators are always
checked, judged and worded by the standard handlers, whatever else is registered or
discovered, before the first compilation or between two of them.

  §1 Handlers — the standard handler of each built-in operator.
  §2 Start    — what the standard module holds, and its discovery.
  §3 Rules    — what the standard handlers make of the rules of a definition.
  §4 Runs     — every state, every rule set and every failure.

Definitions and entries may change from one request to the next; what the standard
module holds only counts when the engine is set up.
-/
import Rulebook.Handler.Fixed
import Rulebook.Handler.Matching
import Rulebook.Proofs.Engine.CompiledRules
import Rulebook.Proofs.Handler.BuiltinHandlers
import Rulebook.Proofs.Handler.DiscoveryTheorems

namespace Rulebook

section Standard

variable [Patterns]

/-! ## 1. Handlers -/

/-- The types of the standard handlers. -/
structure StandardTypes where
  ordering : TypeId
  equality : TypeId
  matching : TypeId

theorem Handler.IsBuiltin.claims {h : Handler} {op : Operator} (builtin : h.IsBuiltin op) :
    op ∈ h.operators := by
  cases builtin <;> assumption

namespace StandardTypes

/-- The standard handlers. -/
def handlers (types : StandardTypes) : List Handler :=
  [.ordering types.ordering, .equality types.equality, .matching types.matching]

/-- The standard handler of a built-in operator. -/
def handler (types : StandardTypes) (op : Operator) : Handler :=
  if op ∈ Relation.operators then .ordering types.ordering
  else if op ∈ Equality.operators then .equality types.equality
  else .matching types.matching

variable {types : StandardTypes} {op : Operator} {h : Handler}

theorem handler_mem (types : StandardTypes) (op : Operator) :
    types.handler op ∈ types.handlers := by
  unfold handler handlers
  split
  · simp
  · split <;> simp

theorem handler_isBuiltin (types : StandardTypes) (builtin : op ∈ Operator.builtin) :
    (types.handler op).IsBuiltin op := by
  have all : Operator.builtin
      = Relation.operators ++ (Equality.operators ++ Matching.operators) := rfl
  rw [all, List.mem_append, List.mem_append] at builtin
  unfold handler
  split
  · rename_i ordering
    exact .ordering _ ordering
  · rename_i ordering
    split
    · rename_i equality
      exact .equality _ equality
    · rename_i equality
      exact .matching _ ((builtin.resolve_left ordering).resolve_left equality)

/-- No two of the standard handlers claim the same operator. -/
theorem eq_handler_of_claims (standard : h ∈ types.handlers) (claimed : op ∈ h.operators) :
    h = types.handler op := by
  have equality_apart : ∀ op ∈ Equality.operators, op ∉ Relation.operators := by decide
  have matching_apart : ∀ op ∈ Matching.operators,
      op ∉ Relation.operators ∧ op ∉ Equality.operators := by decide
  simp only [handlers, List.mem_cons, List.not_mem_nil, or_false] at standard
  unfold handler
  rcases standard with rfl | rfl | rfl
  · exact (if_pos claimed).symm
  · have equality : op ∈ Equality.operators := claimed
    rw [if_neg (equality_apart op equality), if_pos equality]
  · obtain ⟨ordering, equality⟩ := matching_apart op claimed
    rw [if_neg ordering, if_neg equality]

end StandardTypes

/-! ## 2. Start -/

/-- The standard module holds an entry of each standard handler, and of no others; these are of
three different types. -/
structure Catalog.HoldsStandard (catalog : Catalog) (types : StandardTypes) : Prop where
  distinct : (types.handlers.map (·.type)).Nodup
  listed : ∀ h ∈ types.handlers,
    ∃ e ∈ catalog.entries, e.isIn catalog.standardModule = true ∧ e.handler = h
  alone : ∀ e ∈ catalog.entries, e.isIn catalog.standardModule = true →
    e.handler ∈ types.handlers

/-- Discovering the standard module registers the standard handlers and nobody else. -/
theorem Catalog.HoldsStandard.mem_handlers {catalog : Catalog} {types : StandardTypes}
    (holds : catalog.HoldsStandard types) {h : Handler} :
    h ∈ (Registry.empty.discover catalog.entries [catalog.standardModule]).2.handlers ↔
      h ∈ types.handlers := by
  have lies (e : HandlerEntry) :
      e.LiesIn [catalog.standardModule] ↔ e.isIn catalog.standardModule = true := by
    simp [HandlerEntry.LiesIn]
  have only : ∀ h ∈ (Registry.empty.discover catalog.entries [catalog.standardModule]).2.handlers,
      h ∈ types.handlers := by
    intro h registered
    rw [Registry.discover, (Registry.registerAll_newcomers _ _).2] at registered
    obtain ⟨e, new, rfl⟩ := List.mem_map.mp registered
    obtain ⟨mem, inside⟩ := Registry.mem_found.mp ((Registry.newcomers_sublist _ _).subset new)
    exact holds.alone e mem ((lies e).mp inside)
  refine ⟨only h, fun standard => ?_⟩
  obtain ⟨e, mem, inside, rfl⟩ := holds.listed h standard
  have type_known : e.type
      ∈ (Registry.empty.discover catalog.entries [catalog.standardModule]).2.types :=
    Registry.mem_types_discover.mpr (.inr ⟨e, mem, (lies e).mpr inside, rfl⟩)
  obtain ⟨x, registered, same⟩ := List.mem_map.mp type_known
  -- the registered handler of that type is a standard one as well, and types tell these apart
  rwa [← List.inj_on_of_nodup_map holds.distinct (only x registered) standard same]

namespace Engine

/-- Every built-in operator is routed to its standard handler. -/
structure RoutesStandard (types : StandardTypes) (g : Engine) : Prop where
  slots : g.registry.Sound
  routes : ∀ op ∈ Operator.builtin, g.registry.resolve op = some (types.handler op)

variable {catalog : Catalog} {types : StandardTypes} {g : Engine} {type : EntityType}

theorem invariant_routesStandard (catalog : Catalog) (types : StandardTypes) :
    Invariant catalog (RoutesStandard types) where
  binds g type m standard := by
    refine ⟨?_, fun op builtin => ?_⟩
    · rw [registry_bind]
      exact standard.slots
    · rw [registry_bind]
      exact standard.routes op builtin
  registers g x standard :=
    { slots := standard.slots.register x
      routes := fun op builtin => standard.slots.resolve_register x (standard.routes op builtin) }
  looks _ _ standard := ⟨standard.slots, standard.routes⟩
  reserves _ _ standard := ⟨standard.slots, standard.routes⟩
  stores _ _ _ _ _ standard _ _ := ⟨standard.slots, standard.routes⟩

/-- With only the standard handlers registered, that is where operators are routed. -/
theorem routesStandard_of_handlers (slots : g.registry.Sound)
    (only : ∀ h, h ∈ g.registry.handlers ↔ h ∈ types.handlers) : g.RoutesStandard types := by
  refine ⟨slots, fun op builtin => ?_⟩
  rw [slots.resolve_eq]
  cases found : g.registry.handlers.find? (·.claims op) with
  | none =>
    have unclaimed := List.find?_eq_none.mp found _ ((only _).mpr (types.handler_mem op))
    exact absurd (decide_eq_true (types.handler_isBuiltin builtin).claims) unclaimed
  | some h =>
    have claims : h.claims op = true := List.find?_some found
    have claimed : op ∈ h.operators := of_decide_eq_true claims
    have standard := (only h).mp (List.mem_of_find?_eq_some found)
    rw [StandardTypes.eq_handler_of_claims standard claimed]

/-- The standard module is discovered first, so that what else is to be discovered at the start
comes too late for the built-in operators. -/
theorem routesStandard_ofSettings (holds : catalog.HoldsStandard types) {settings : Settings}
    (on : settings.builtinHandlers = true) :
    (Engine.ofSettings catalog settings).RoutesStandard types := by
  have standard : (Engine.discover catalog [catalog.standardModule]
      { settings := settings }).2.RoutesStandard types :=
    routesStandard_of_handlers (Registry.sound_empty.registerAll _) fun _ => holds.mem_handlers
  unfold Engine.ofSettings
  simp only [on, if_true]
  split
  · exact standard
  · exact (invariant_routesStandard catalog types).discover standard settings.discover

end Engine

/-! ## 3. Rules -/

/-- The bound rule is the declared one.  If its operator is built in, it is the standard handler
that has bound it, and that words its message, unless the rule has one. -/
structure StandardTypes.Binds (types : StandardTypes) (shape : Shape) (declared : String × Rule)
    (bound : BoundRule) : Prop where
  property : bound.property = declared.1
  operator : bound.operator = declared.2.operator
  severity : bound.severity = declared.2.severity
  builtin : declared.2.operator ∈ Operator.builtin →
    ∃ property, shape.property? declared.1 = some property ∧
      let h := types.handler declared.2.operator
      let target : Target := ⟨shape, property, declared.2⟩
      h.build target = .done (.ok bound.predicate) ∧
        bound.message = declared.2.message.getD (h.defaultMessage target)

section Rules

variable {types : StandardTypes} {s : Scan}

theorem Scan.Binds.standard {declared : String × Rule} {bound : BoundRule}
    (binds : s.Binds Build.CanEnd declared bound)
    (routes : ∀ op ∈ Operator.builtin, s.resolve op = some (types.handler op)) :
    types.Binds s.shape declared bound := by
  obtain ⟨property, handler, predicate, found, routed, ended, rfl⟩ := binds
  refine ⟨rfl, rfl, rfl, fun builtin => ⟨property, found, ?_⟩⟩
  obtain rfl : handler = types.handler declared.2.operator :=
    Option.some.inj (routed.symm.trans (routes _ builtin))
  exact ⟨ended.eq_done ((types.handler_isBuiltin builtin).direct _), rfl⟩

/-- An error of a compilation is about no built-in operator, unless the standard handler has refused
a declared rule. -/
theorem Scan.Blocks.standard {e : Misconfiguration} (blocks : s.Blocks Build.CanEnd e)
    (routes : ∀ op ∈ Operator.builtin, s.resolve op = some (types.handler op)) {op : Operator}
    (builtin : op ∈ Operator.builtin) :
    (∀ name, e ≠ .handlerNotFound op s.type name) ∧
      ∀ name reason, e = .binding s.type name op reason →
        ∃ property rule, (name, rule) ∈ s.definition.declaredRules ∧ rule.operator = op ∧
          s.shape.property? name = some property ∧
          (types.handler op).build ⟨s.shape, property, rule⟩ = .done (.error reason) := by
  cases blocks with
  | unknownProperty name required missing =>
    exact ⟨fun _ => nofun, fun _ _ => nofun⟩
  | handlerNotFound name rule declared unrouted =>
    refine ⟨fun name' same => ?_, fun _ _ => nofun⟩
    obtain ⟨rfl, -, -⟩ := Misconfiguration.handlerNotFound.inj same
    cases unrouted.symm.trans (routes _ builtin)
  | binding name rule property handler reason declared found routed refused =>
    refine ⟨fun _ => nofun, fun name' reason' same => ?_⟩
    obtain ⟨-, rfl, rfl, rfl⟩ := Misconfiguration.binding.inj same
    obtain rfl : handler = types.handler rule.operator :=
      Option.some.inj (routed.symm.trans (routes _ builtin))
    exact ⟨property, rule, declared, rfl, found,
      refused.eq_done ((types.handler_isBuiltin builtin).direct _)⟩

end Rules

/-! ## 4. Runs -/

namespace Engine

variable {catalog : Catalog} {types : StandardTypes} {g : Engine} {type : EntityType}

/-- Operators are routed to the standard handlers, and have been when the cached rule sets were
compiled, each for the definition of its type under one of the catalogs. -/
structure KeepsStandard (types : StandardTypes) (catalogs : Catalog → Prop) (g : Engine) : Prop
    extends g.RoutesStandard types where
  sets : ∀ type set, g.caches.sets.get? type = some set →
    ∃ catalog m, catalogs catalog ∧ g.bindings.table.get? type = some m ∧
      List.Forall₂ (types.Binds (catalog.shape type)) (catalog.definition m).declaredRules
        set.rules

theorem invariant_keepsStandard (types : StandardTypes) {catalogs : Catalog → Prop}
    (used : catalogs catalog) : Invariant catalog (KeepsStandard types catalogs) where
  binds g type m keeps := by
    refine ⟨(invariant_routesStandard catalog types).binds g type m keeps.toRoutesStandard,
      fun other set cached => ?_⟩
    rw [g.caches_bind] at cached
    obtain ⟨catalog', m', used', bound, rules⟩ := keeps.sets other set cached
    exact ⟨catalog', m', used', get?_bind bound type m, rules⟩
  registers g x keeps :=
    ⟨(invariant_routesStandard catalog types).registers g x keeps.toRoutesStandard, keeps.sets⟩
  looks g m keeps := by
    refine ⟨⟨keeps.slots, keeps.routes⟩, fun type set cached => ?_⟩
    dsimp only at cached
    rw [Caches.sets_entityKey] at cached
    exact keeps.sets type set cached
  reserves g type keeps :=
    ⟨⟨keeps.slots, keeps.routes⟩, fun other set cached =>
      keeps.sets other set (g.caches.get?_reserve type other ▸ cached)⟩
  stores g start type set _ keeps uncached compiled := by
    refine ⟨⟨keeps.slots, keeps.routes⟩, fun other set' cached => ?_⟩
    by_cases same : other = type
    · subst same
      rw [Caches.get?_store_self uncached] at cached
      obtain rfl : set = set' := Option.some.inj cached
      obtain ⟨m, bound, described⟩ := compiled
      exact ⟨catalog, m, used, bound,
        described.rules.imp fun _ _ binds => binds.standard keeps.routes⟩
    · rw [Caches.get?_store_of_ne _ _ same] at cached
      exact keeps.sets other set' cached

theorem KeepsStandard.mono {catalogs catalogs' : Catalog → Prop}
    (keeps : g.KeepsStandard types catalogs) (more : ∀ c, catalogs c → catalogs' c) :
    g.KeepsStandard types catalogs' := by
  refine ⟨keeps.toRoutesStandard, fun type set cached => ?_⟩
  obtain ⟨source, m, used, rest⟩ := keeps.sets type set cached
  exact ⟨source, m, more source used, rest⟩

theorem keepsStandard_after (holds : catalog.HoldsStandard types) {settings : Settings}
    (on : settings.builtinHandlers = true) (steps : List (Catalog × Request)) :
    ((Engine.ofSettings catalog settings).after steps).KeepsStandard types
      (· ∈ steps.map (·.1)) := by
  have started : (Engine.ofSettings catalog settings).KeepsStandard types
      (· ∈ steps.map (·.1)) := by
    refine ⟨routesStandard_ofSettings holds on, fun type set cached => ?_⟩
    obtain ⟨registry, start⟩ := ofSettings_eq catalog settings
    rw [start] at cached
    cases cached
  exact Invariant.after_forall
    (fun step mem => invariant_keepsStandard types (List.mem_map_of_mem mem)) started

end Engine

/-- In every state of an engine that was set up with the standard handlers, whatever else it was to
discover and whatever it has been asked since, each built-in operator is routed to its standard
handler.  In every rule set, the rules of built-in operators are those that the standard handlers
have bound, with their messages.  And no compilation fails for want of a handler of a built-in
operator, or because a rule of one was refused, unless by the standard handler. -/
theorem builtin_operators_kept (catalog : Catalog) (types : StandardTypes)
    (holds : catalog.HoldsStandard types) (settings : Settings)
    (on : settings.builtinHandlers = true) (steps : List (Catalog × Request)) :
    let g := (Engine.ofSettings catalog settings).after steps
    (∀ op ∈ Operator.builtin, g.registry.resolve op = some (types.handler op) ∧
        (types.handler op).IsBuiltin op) ∧
      (∀ now type set, (g.ruleSet now type).1 = .ok set →
        ∃ source m, (source = now ∨ source ∈ steps.map (·.1)) ∧
          g.bindings.table.get? type = some m ∧
          List.Forall₂ (types.Binds (source.shape type)) (source.definition m).declaredRules
            set.rules) ∧
      ∀ now type e, (g.ruleSet now type).1 = .error e → ∀ op ∈ Operator.builtin,
        (∀ name, e ≠ .handlerNotFound op type name) ∧
          ∀ name reason, e = .binding type name op reason →
            ∃ m property rule, g.bindings.table.get? type = some m ∧
              (name, rule) ∈ (now.definition m).declaredRules ∧ rule.operator = op ∧
              (now.shape type).property? name = some property ∧
              (types.handler op).build ⟨now.shape type, property, rule⟩
                = .done (.error reason) := by
  intro g
  have keeps : g.KeepsStandard types (· ∈ steps.map (·.1)) :=
    Engine.keepsStandard_after holds on steps
  refine ⟨fun op builtin => ⟨keeps.routes op builtin, types.handler_isBuiltin builtin⟩,
    fun now type set answered => ?_, fun now type e failed op builtin => ?_⟩
  · have weaker : g.KeepsStandard types fun c => c = now ∨ c ∈ steps.map (·.1) :=
      keeps.mono fun _ => .inr
    have later := (Engine.invariant_keepsStandard types (.inl rfl)).ruleSet weaker type
    exact later.sets type set (Engine.cached_of_ruleSet answered)
  · rcases Engine.obstructed_of_failed failed with ⟨-, rfl⟩ | ⟨m, bound, blocks⟩
    · exact ⟨fun _ => nofun, fun _ _ => nofun⟩
    · obtain ⟨routed, refused⟩ := blocks.standard keeps.routes builtin
      refine ⟨routed, fun name reason same => ?_⟩
      obtain ⟨property, rule, declared, operator, found, built⟩ := refused name reason same
      exact ⟨m, property, rule, bound, declared, operator, found, built⟩

end Standard

/-! ### Tickets -/

/-- The price of a ticket must not be negative. -/
def priceRule : Rule := { operator := .greaterThanOrEqual, constant := some (.int 0) }

/-- Tickets with their price.  A handler that would let no rule pass can be discovered beside the
standard ones, and stands before them in the order of modules. -/
def tickets : Catalog where
  shape _ := ⟨"Ticket", [⟨"price", 0, .int, false⟩]⟩
  definition _ := .ofSteps [⟨"price", [.rule priceRule]⟩]
  entries :=
    [⟨"desk", "Never", .fixed "Never" Operator.builtin false⟩,
      ⟨"standard::equality", "Equality", .equality "Equality"⟩,
      ⟨"standard::matching", "Matching", .matching "Matching"⟩,
      ⟨"standard::ordering", "Ordering", .ordering "Ordering"⟩]
  standardModule := "standard"

/-- The types of the standard handlers there. -/
def ticketTypes : StandardTypes := ⟨"Ordering", "Equality", "Matching"⟩

/-- Another handler that claims all built-in operators is registered before tickets are bound. -/
def ticketRun : List (Catalog × Request) :=
  [(tickets, .register (.fixed "Always" Operator.builtin true)),
    (tickets, .bind ⟨"Ticket"⟩ ⟨"TicketRules"⟩)]

theorem holdsStandard_tickets : tickets.HoldsStandard ticketTypes := by
  have inside : tickets.entries.filter (·.isIn tickets.standardModule) = tickets.entries.tail := rfl
  refine ⟨by decide, fun h standard => ?_, fun e mem lies => ?_⟩
  · have listed : ∃ e ∈ tickets.entries.filter (·.isIn tickets.standardModule), e.handler = h := by
      rw [inside]
      simp only [StandardTypes.handlers, List.mem_cons, List.not_mem_nil, or_false] at standard
      rcases standard with rfl | rfl | rfl <;> simp [tickets, ticketTypes]
    simpa only [List.mem_filter, and_assoc] using listed
  · have standard : e ∈ tickets.entries.tail := inside ▸ List.mem_filter.mpr ⟨mem, lies⟩
    simp only [tickets, List.tail_cons, List.mem_cons, List.not_mem_nil, or_false] at standard
    rcases standard with rfl | rfl | rfl <;> simp [StandardTypes.handlers, ticketTypes]

/-- What the ordering handler makes of the rule. -/
theorem ordering_binds_price : ∃ p, (Handler.ordering "Ordering").build
      ⟨tickets.shape ⟨"Ticket"⟩, ⟨"price", 0, .int, false⟩, priceRule⟩ = .done (.ok p) ∧
    p (.ofList [.int 3]) = true ∧ p (.ofList [.int (-1)]) = false :=
  ⟨_, rfl, rfl, rfl⟩

/-- With the standard handlers in their places, nothing stands in the way of tickets. -/
theorem exists_ruleSet_tickets {g : Engine}
    (routes : ∀ op ∈ Operator.builtin, g.registry.resolve op = some (ticketTypes.handler op))
    (bound : g.bindings.table.get? ⟨"Ticket"⟩ = some ⟨"TicketRules"⟩)
    (unseen : g.caches.keys.get? ⟨"TicketRules"⟩ = none) :
    ∃ set, (g.ruleSet tickets ⟨"Ticket"⟩).1 = .ok set := by
  cases answered : (g.ruleSet tickets ⟨"Ticket"⟩).1 with
  | ok set => exact ⟨set, rfl⟩
  | error e =>
    have builtin : priceRule.operator ∈ Operator.builtin := by decide
    have keyless : g.caches.keyInForce ⟨"TicketRules"⟩ (tickets.definition ⟨"TicketRules"⟩)
        = none := by
      rw [Caches.keyInForce, unseen]
      rfl
    rcases Engine.obstructed_of_failed answered with ⟨unbound, -⟩ | ⟨m, bound', blocks⟩
    · cases unbound.symm.trans bound
    obtain rfl : m = ⟨"TicketRules"⟩ := Option.some.inj (bound'.symm.trans bound)
    obtain ⟨routed, refused⟩ := blocks.standard routes builtin
    cases blocks with
    | unknownProperty name required missing =>
      rcases required with key | ⟨d, mem, rfl⟩
      · cases keyless.symm.trans key
      · obtain rfl := List.mem_singleton.mp mem
        cases missing
    | handlerNotFound name rule declared unrouted =>
      obtain ⟨rfl, rfl⟩ := Prod.mk.inj (List.mem_singleton.mp declared)
      exact absurd rfl (routed "price")
    | binding name rule property handler reason declared found routed' ended =>
      obtain ⟨rfl, rfl⟩ := Prod.mk.inj (List.mem_singleton.mp declared)
      obtain ⟨property, rule, declared, -, found, built⟩ := refused "price" reason rfl
      obtain ⟨-, rfl⟩ := Prod.mk.inj (List.mem_singleton.mp declared)
      obtain ⟨p, binds, -⟩ := ordering_binds_price
      cases found
      cases binds.symm.trans built

/-- Neither of the two other handlers gets hold of the rule. -/
theorem builtin_operators_kept_tickets :
    let settings : Settings := { discover := ["desk"] }
    let g := (Engine.ofSettings tickets settings).after ticketRun
    tickets.HoldsStandard ticketTypes ∧ settings.builtinHandlers = true ∧
      g.registry.resolve .greaterThanOrEqual = some (.ordering "Ordering") ∧
      ∃ set r, (g.ruleSet tickets ⟨"Ticket"⟩).1 = .ok set ∧ set.rules = [r] ∧
        r.message = "price must be greater than or equal to 0" ∧
        r.holds (.ofList [.int 3]) = true ∧ r.holds (.ofList [.int (-1)]) = false := by
  intro settings g
  obtain ⟨routes, compiled, -⟩ := builtin_operators_kept tickets ticketTypes
    holdsStandard_tickets settings rfl ticketRun
  have builtin : priceRule.operator ∈ Operator.builtin := by decide
  obtain ⟨set, answered⟩ : ∃ set, (g.ruleSet tickets ⟨"Ticket"⟩).1 = .ok set :=
    exists_ruleSet_tickets (fun op mem => (routes op mem).1) rfl rfl
  obtain ⟨source, m, used, -, rules⟩ := compiled tickets ⟨"Ticket"⟩ set answered
  obtain rfl : source = tickets := by simpa [ticketRun] using used
  -- the definition declares one rule, so there is one bound rule
  obtain ⟨r, _, bound, none, same⟩ := List.forall₂_cons_left_iff.mp rules
  obtain rfl := List.forall₂_nil_left_iff.mp none
  obtain ⟨property, found, built, message⟩ := bound.builtin builtin
  obtain ⟨p, binds, passes, fails⟩ := ordering_binds_price
  cases found
  obtain rfl : p = r.predicate := Except.ok.inj (Build.done.inj (binds.symm.trans built))
  exact ⟨holdsStandard_tickets, rfl, (routes _ builtin).1, set, r, answered, same, message, passes,
    fails⟩

end Rulebook
