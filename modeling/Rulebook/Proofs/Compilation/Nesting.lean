/-
Rulebook.Proofs.Compilation.Nesting — compilations inside compilations.

While the rules of a type are being bound, handlers may ask for the rule sets of
other types, which are then compiled on the spot, and so on.  The types that are
being compiled form a chain, and a request for one of them is turned away.  A
type of the chain therefore has no cached rule set: when its own is stored at
last, it is stored for the first time.  What every look-up of a key and every
such first storing keeps, a request keeps as a whole, however deeply requests
nest and whichever of them fail.

  §1 One request — cached, or compiled and then stored.
  §2 Relations   — requests from related caches agree and leave related ones.
  §3 Invariants  — the same for a single run: caches related to themselves.
  §4 Depth       — the bound on the depth of nested requests is never felt.
-/
import Mathlib.Data.List.Perm.Subperm
import Rulebook.Proofs.Compilation.Agreement

namespace Rulebook

section Nesting

open Compiling

variable {catalog : Catalog} {registry : Registry} {bindings : Bindings} {responder : Responder}
  {type : EntityType} {c : Caches}

/-! ## 1. One request -/

/-- A rule set that is cached is answered with at once: nothing is written, and no handler is
called. -/
theorem cachedOrCompiled_of_cached {σ : Type} [Workspace σ] {responder : ResponderIn σ} {s : σ}
    {set : RuleSet} (cached : (Workspace.caches s).sets.get? type = some set) :
    (cachedOrCompiled catalog registry bindings responder type).run.run s = (.ok set, s) := by
  have looks (f : Caches → CompilingIn σ RuleSet) :
      (theCaches >>= f).run.run s = (f (Workspace.caches s)).run.run s := rfl
  unfold cachedOrCompiled
  rw [looks, cached]
  rfl

/-- The caches after an attempt to compile a type that ended in the result. -/
def Caches.afterAttempt (type : EntityType) (c : Caches) : Except Misconfiguration RuleSet → Caches
  | .ok set => c.store type set
  | .error _ => c

/-- Otherwise the slot of the type is reserved, and the type compiled. -/
theorem cachedOrCompiled_of_uncached (uncached : c.sets.get? type = none) :
    (cachedOrCompiled catalog registry bindings responder type).run.run c =
      let attempt := (compile catalog registry bindings responder type).run.run (c.reserve type)
      (attempt.1, attempt.2.afterAttempt type attempt.1) := by
  have looks (f : Caches → Compiling RuleSet) :
      (theCaches >>= f : Compiling RuleSet).run.run c = (f c).run.run c := rfl
  unfold cachedOrCompiled
  rw [looks, uncached, run_onCaches_bind, run_bind]
  rcases (compile catalog registry bindings responder type).run.run (c.reserve type) with
    ⟨result, later⟩
  cases result <;> rfl

@[simp] theorem Caches.get?_reserve (c : Caches) (type other : EntityType) :
    (c.reserve type).sets.get? other = c.sets.get? other :=
  SlotMap.get?_reserve c.sets type other

@[simp] theorem Caches.keyInForce_reserve (c : Caches) (type : EntityType) (m : MetadataType)
    (d : Definition) : (c.reserve type).keyInForce m d = c.keyInForce m d := rfl

theorem Caches.get?_store_of_ne {other : EntityType} (c : Caches) (set : RuleSet)
    (apart : other ≠ type) : (c.store type set).sets.get? other = c.sets.get? other := by
  rw [store, SlotMap.get?_fill, if_neg apart]

theorem Caches.get?_store_self {c : Caches} (uncached : c.sets.get? type = none) (set : RuleSet) :
    (c.store type set).sets.get? type = some set := by
  rw [store, SlotMap.get?_fill, if_pos rfl, uncached, Option.getD_none]

theorem compile_of_unbound (unbound : bindings.table.get? type = none) :
    (compile catalog registry bindings responder type).run.run c
      = (.error (.missingBinding type), c) := by
  unfold compile Bindings.lookup
  rw [unbound]
  rfl

/-! ## 2. Relations -/

/-- The types have no cached rule sets. -/
def Caches.Lacks (chain : List EntityType) (c : Caches) : Prop :=
  ∀ type ∈ chain, c.sets.get? type = none

theorem Caches.Lacks.reserve {chain : List EntityType} (lacks : c.Lacks chain)
    (type : EntityType) : (c.reserve type).Lacks chain :=
  fun other mem => (c.get?_reserve type other).trans (lacks other mem)

/-- The build ends in the result for some answers. -/
def Build.CanEnd (b : Build) (result : Except Refusal Predicate) : Prop :=
  ∃ (responder : Responder) (c : Caches), ((b.run responder).run c).1 = result

/-- A build that asks nothing ends in one way only. -/
theorem Build.CanEnd.eq_done {b : Build} {result : Except Refusal Predicate}
    (ended : b.CanEnd result) (direct : ∃ answer, b = .done answer) : b = .done result := by
  obtain ⟨answer, rfl⟩ := direct
  obtain ⟨responder, c, same⟩ := ended
  exact congrArg Build.done same

/-- The caches hold the same rule sets and have the same keys in force.  They stay related when keys
are looked up in both, when slots are reserved in both, and when a rule set that some handler has
asked for, and that its type compiles to, is stored in both for a type that had none. -/
structure Upheld (catalog : Catalog) (registry : Registry) (bindings : Bindings)
    (rel : Caches → Caches → Prop) : Prop where
  sets : ∀ c c', rel c c' → c.sets = c'.sets
  keys : ∀ c c', rel c c' → ∀ m,
    c.keyInForce m (catalog.definition m) = c'.keyInForce m (catalog.definition m)
  looks : ∀ c c', rel c c' → ∀ m,
    rel (c.entityKey m (catalog.definition m)).2 (c'.entityKey m (catalog.definition m)).2
  reserves : ∀ c c', rel c c' → ∀ type, rel (c.reserve type) (c'.reserve type)
  stores : ∀ type, registry.Asks type → ∀ set start start' c c', rel start start' → rel c c' →
    c.sets.get? type = none →
    CompilesTo catalog registry bindings (fun m => start.keyInForce m (catalog.definition m))
      Build.CanEnd type set → rel (c.store type set) (c'.store type set)

/-- What is asked for is answered alike from related caches, and that keeps them related and without
rule sets for the types of the chain. -/
def Responder.Agree (registry : Registry) (rel : Caches → Caches → Prop) (chain : List EntityType)
    (r r' : Responder) : Prop :=
  ∀ other, registry.Asks other → ∀ c c', rel c c' ∧ c.Lacks chain →
    ((r other).run c).1 = ((r' other).run c').1 ∧
      rel ((r other).run c).2 ((r' other).run c').2 ∧ ((r other).run c).2.Lacks chain

namespace Upheld

variable {rel : Caches → Caches → Prop} {r r' : Responder} {chain : List EntityType} {c c' : Caches}

/-- Compilations from related caches agree; `ends` is anything that is so of all builds on the
way. -/
theorem agree_compile (upheld : Upheld catalog registry bindings rel)
    (answers : Responder.Agree registry rel chain r r')
    (ends : Build → Except Refusal Predicate → Prop)
    (ended : ∀ b c c', rel c c' ∧ c.Lacks chain → ends b ((b.run r).run c).1)
    (type : EntityType) (related : rel c c' ∧ c.Lacks chain) :
    let key m := c.keyInForce m (catalog.definition m)
    AgreeAt (fun c c' => rel c c' ∧ c.Lacks chain)
      (Obstructed catalog registry bindings key ends type)
      (CompilesTo catalog registry bindings key ends type)
      (compile catalog registry bindings r type) (compile catalog registry bindings r' type)
      c c' := by
  intro key
  have builds : registry.BuildsAgree (fun c c' => rel c c' ∧ c.Lacks chain) ends r r' := by
    intro h mem t c c' related
    obtain ⟨same, kept⟩ := (h.build t).agree_run
      (fun other asks => answers other ⟨h, mem, t, asks⟩) c c' related
    exact ⟨same, kept, ended _ c c' related⟩
  refine Rulebook.agree_compile _ builds catalog bindings type key related fun m =>
    ⟨rfl, upheld.keys c c' related.1 m, upheld.looks c c' related.1 m, fun other mem => ?_⟩
  rw [Caches.sets_entityKey]
  exact related.2 other mem

/-- Requests from related caches agree if the answers to handlers do and the rule set of the type
may be stored.  They store nothing for the types of the chain, and what they are answered with is
then cached. -/
theorem agree_cachedOrCompiled (upheld : Upheld catalog registry bindings rel)
    (outside : type ∉ chain) (answers : Responder.Agree registry rel (type :: chain) r r')
    (stores : ∀ set start start' c c', rel start start' → rel c c' → c.sets.get? type = none →
      CompilesTo catalog registry bindings (fun m => start.keyInForce m (catalog.definition m))
        Build.CanEnd type set → rel (c.store type set) (c'.store type set))
    (related : rel c c' ∧ c.Lacks chain) :
    let x := (cachedOrCompiled catalog registry bindings r type).run.run c
    let y := (cachedOrCompiled catalog registry bindings r' type).run.run c'
    x.1 = y.1 ∧ (rel x.2 y.2 ∧ x.2.Lacks chain) ∧
      ∀ set, x.1 = .ok set → x.2.sets.get? type = some set := by
  have sets := upheld.sets c c' related.1
  cases found : c.sets.get? type with
  | some set =>
    rw [cachedOrCompiled_of_cached found, cachedOrCompiled_of_cached (sets ▸ found)]
    exact ⟨rfl, related, fun other same => found.trans (congrArg some (Except.ok.inj same))⟩
  | none =>
    have lacks : c.Lacks (type :: chain) := List.forall_mem_cons.mpr ⟨found, related.2⟩
    have start := upheld.reserves c c' related.1 type
    obtain ⟨same, ⟨kept, lacking⟩, ended⟩ := upheld.agree_compile answers Build.CanEnd
      (fun _ c _ _ => ⟨r, c, rfl⟩) type ⟨start, lacks.reserve type⟩
    obtain ⟨own, others⟩ := List.forall_mem_cons.mp lacking
    rw [cachedOrCompiled_of_uncached found, cachedOrCompiled_of_uncached (sets ▸ found)]
    rcases hx : (compile catalog registry bindings r type).run.run (c.reserve type) with
      ⟨result, later⟩
    rcases hy : (compile catalog registry bindings r' type).run.run (c'.reserve type) with
      ⟨result', later'⟩
    rw [hx, hy] at same kept
    rw [hx] at own others ended
    obtain rfl : result = result' := same
    refine ⟨rfl, ?_⟩
    cases result with
    | error e =>
      refine ⟨⟨kept, others⟩, ?_⟩
      rintro set ⟨⟩
    | ok set =>
      refine ⟨⟨stores set _ _ later later' start kept own ended, fun other mem => ?_⟩, ?_⟩
      · have apart : other ≠ type := fun same => outside (same ▸ mem)
        exact (later.get?_store_of_ne set apart).trans (others other mem)
      · rintro _ ⟨⟩
        exact Caches.get?_store_self own set

/-- The engine answers handlers alike from related caches. -/
theorem agree_nestedResponder (upheld : Upheld catalog registry bindings rel) (depth : Nat)
    (chain : List EntityType) :
    Responder.Agree registry rel chain (nestedResponder catalog registry bindings depth chain)
      (nestedResponder catalog registry bindings depth chain) := by
  induction depth generalizing chain with
  | zero =>
    intro type asked c c' related
    unfold nestedResponder
    split
    · exact ⟨rfl, related⟩
    · exact ⟨rfl, upheld.reserves c c' related.1 type, related.2.reserve type⟩
  | succ depth ih =>
    intro type asked c c' related
    unfold nestedResponder
    split
    · exact ⟨rfl, related⟩
    · rename_i outside
      obtain ⟨same, kept, -⟩ := upheld.agree_cachedOrCompiled outside (ih (type :: chain))
        (upheld.stores type asked) related
      exact ⟨congrArg Answer.outcome same, kept⟩

end Upheld

/-! ## 3. Invariants -/

/-- The build ends in the result when it is answered from caches with the invariant. -/
def Build.EndsFrom (inv : Caches → Prop) (responder : Responder) (b : Build)
    (result : Except Refusal Predicate) : Prop :=
  ∃ c, inv c ∧ ((b.run responder).run c).1 = result

/-- Look-ups of keys and reserved slots keep the invariant, and so does storing a rule set that some
handler has asked for and that its type compiles to, for a type that had none. -/
structure Preserved (catalog : Catalog) (registry : Registry) (bindings : Bindings)
    (inv : Caches → Prop) : Prop where
  looks : ∀ c, inv c → ∀ m, inv (c.entityKey m (catalog.definition m)).2
  reserves : ∀ c, inv c → ∀ type, inv (c.reserve type)
  stores : ∀ type, registry.Asks type → ∀ set start c, inv start → inv c →
    c.sets.get? type = none →
    CompilesTo catalog registry bindings (fun m => start.keyInForce m (catalog.definition m))
      Build.CanEnd type set → inv (c.store type set)

namespace Preserved

variable {inv : Caches → Prop}

/-- An invariant relates caches to themselves. -/
theorem upheld (preserved : Preserved catalog registry bindings inv) :
    Upheld catalog registry bindings fun c c' => c = c' ∧ inv c where
  sets := by
    rintro c _ ⟨rfl, -⟩
    rfl
  keys := by
    rintro c _ ⟨rfl, -⟩ m
    rfl
  looks := by
    rintro c _ ⟨rfl, hc⟩ m
    exact ⟨rfl, preserved.looks c hc m⟩
  reserves := by
    rintro c _ ⟨rfl, hc⟩ type
    exact ⟨rfl, preserved.reserves c hc type⟩
  stores := by
    rintro type asked set start _ c _ ⟨rfl, hstart⟩ ⟨rfl, hc⟩ uncached compiled
    exact ⟨rfl, preserved.stores type asked set start c hstart hc uncached compiled⟩

/-- A nested request keeps the invariant, and stores nothing for the types of the chain. -/
theorem nestedResponder (preserved : Preserved catalog registry bindings inv) (depth : Nat)
    {chain : List EntityType} (asked : registry.Asks type) (hc : inv c ∧ c.Lacks chain) :
    let later := ((nestedResponder catalog registry bindings depth chain type).run c).2
    inv later ∧ later.Lacks chain := by
  have answers := preserved.upheld.agree_nestedResponder depth chain
  obtain ⟨-, ⟨-, kept⟩, lacking⟩ := answers type asked c c ⟨⟨rfl, hc.1⟩, hc.2⟩
  exact ⟨kept, lacking⟩

/-- What a handler is answered with is cached by then. -/
theorem cached_of_nestedResponder (preserved : Preserved catalog registry bindings inv)
    {depth : Nat} {chain : List EntityType} (asked : registry.Asks type)
    (hc : inv c ∧ c.Lacks chain) {set : RuleSet}
    (answered : ((Rulebook.nestedResponder catalog registry bindings depth chain type).run c).1
      = .outcome (.ok set)) :
    ((Rulebook.nestedResponder catalog registry bindings depth chain type).run c).2.sets.get? type
      = some set := by
  cases depth with
  | zero =>
    unfold Rulebook.nestedResponder at answered
    split at answered <;> cases answered
  | succ depth =>
    unfold Rulebook.nestedResponder at answered ⊢
    split at answered
    · cases answered
    · rename_i outside
      rw [if_neg outside]
      obtain ⟨-, -, cached⟩ := preserved.upheld.agree_cachedOrCompiled outside
        (preserved.upheld.agree_nestedResponder depth (type :: chain))
        (preserved.upheld.stores type asked) ⟨⟨rfl, hc.1⟩, hc.2⟩
      exact cached set (Answer.outcome.inj answered)

/-- A request to the engine keeps the invariant, if the rule set that was asked for may be stored;
what it is answered with is then cached. -/
theorem ruleSetOf (preserved : Preserved catalog registry bindings inv)
    (stores : ∀ set start c, inv start → inv c → c.sets.get? type = none →
      CompilesTo catalog registry bindings (fun m => start.keyInForce m (catalog.definition m))
        Build.CanEnd type set → inv (c.store type set)) (hc : inv c) :
    let served := (ruleSetOf catalog registry bindings type).run.run c
    inv served.2 ∧ ∀ set, served.1 = .ok set → served.2.sets.get? type = some set := by
  have answers := preserved.upheld.agree_nestedResponder bindings.size [type]
  obtain ⟨-, ⟨⟨-, kept⟩, -⟩, cached⟩ := preserved.upheld.agree_cachedOrCompiled
    (List.not_mem_nil (a := type)) answers (by
      rintro set start _ c _ ⟨rfl, hstart⟩ ⟨rfl, hc⟩ uncached compiled
      exact ⟨rfl, stores set start c hstart hc uncached compiled⟩)
    ⟨⟨rfl, hc⟩, fun _ mem => absurd mem List.not_mem_nil⟩
  exact ⟨kept, cached⟩

/-- Compiling a type that has no cached rule set keeps the invariant, and stores nothing for the
type itself on the way. -/
theorem compile (preserved : Preserved catalog registry bindings inv) (hc : inv c)
    (uncached : c.sets.get? type = none) :
    let responder := Rulebook.nestedResponder catalog registry bindings bindings.size [type]
    let key m := c.keyInForce m (catalog.definition m)
    let ends := Build.EndsFrom (fun c => inv c ∧ c.Lacks [type]) responder
    let attempt := (compile catalog registry bindings responder type).run.run c
    inv attempt.2 ∧ attempt.2.sets.get? type = none ∧
      Ends (Obstructed catalog registry bindings key ends type)
        (CompilesTo catalog registry bindings key ends type) attempt.1 := by
  intro responder key ends attempt
  have lacks : c.Lacks [type] := fun other mem => List.mem_singleton.mp mem ▸ uncached
  have ended : ∀ b c c', (c = c' ∧ inv c) ∧ c.Lacks [type] → ends b ((b.run responder).run c).1 :=
    fun b c _ h => ⟨c, ⟨h.1.2, h.2⟩, rfl⟩
  obtain ⟨-, ⟨⟨-, kept⟩, lacking⟩, ended⟩ := preserved.upheld.agree_compile
    (preserved.upheld.agree_nestedResponder bindings.size [type]) ends ended type ⟨⟨rfl, hc⟩, lacks⟩
  exact ⟨kept, lacking type List.mem_cons_self, ended⟩

end Preserved

/-! ## 4. Depth -/

theorem Bindings.isBound_iff {b : Bindings} : b.isBound type ↔ ∃ m, b.table.get? type = some m := by
  rw [isBound, FiniteMap.contains, Option.isSome_iff_exists]

/-- Only bound types have cached rule sets. -/
def Caches.OfBound (bindings : Bindings) (c : Caches) : Prop :=
  ∀ type set, c.sets.get? type = some set → bindings.isBound type

theorem Caches.OfBound.reserve (hc : c.OfBound bindings) (type : EntityType) :
    (c.reserve type).OfBound bindings :=
  fun other set cached => hc other set (c.get?_reserve type other ▸ cached)

theorem Caches.OfBound.stored (hc : c.OfBound bindings) (held : bindings.isBound type)
    (set : RuleSet) : (c.store type set).OfBound bindings := by
  intro other set' cached
  by_cases same : other = type
  · exact same ▸ held
  · rw [Caches.get?_store_of_ne _ _ same] at cached
    exact hc other set' cached

theorem preserved_ofBound : Preserved catalog registry bindings (Caches.OfBound bindings) where
  looks c hc m type set cached := by
    rw [Caches.sets_entityKey] at cached
    exact hc type set cached
  reserves _ hc type := hc.reserve type
  stores type _ set start c _ hc _ compiled := by
    obtain ⟨m, bound, -⟩ := compiled
    exact hc.stored (Bindings.isBound_iff.mpr ⟨m, bound⟩) set

theorem nestedResponder_of_mem {depth : Nat} {chain : List EntityType} (mem : type ∈ chain) :
    (nestedResponder catalog registry bindings depth chain type).run c = (.inProgress, c) := by
  unfold nestedResponder
  rw [if_pos mem]
  rfl

theorem cachedOrCompiled_of_unbound (hc : c.OfBound bindings) (unbound : ¬bindings.isBound type) :
    (cachedOrCompiled catalog registry bindings responder type).run.run c
      = (.error (.missingBinding type), c.reserve type) := by
  have uncached : c.sets.get? type = none := by
    by_contra some
    obtain ⟨set, found⟩ := Option.ne_none_iff_exists'.mp some
    exact unbound (hc type set found)
  have absent : bindings.table.get? type = none := by
    by_contra some
    exact unbound (Bindings.isBound_iff.mpr (Option.ne_none_iff_exists'.mp some))
  rw [cachedOrCompiled_of_uncached uncached, compile_of_unbound absent]
  rfl

theorem nestedResponder_of_unbound (depth : Nat) {chain : List EntityType} (outside : type ∉ chain)
    (hc : c.OfBound bindings) (unbound : ¬bindings.isBound type) :
    (nestedResponder catalog registry bindings depth chain type).run c
      = (.outcome (.error (.missingBinding type)), c.reserve type) := by
  cases depth with
  | zero =>
    unfold nestedResponder
    rw [if_neg outside]
    rfl
  | succ depth =>
    unfold nestedResponder
    rw [if_neg outside]
    change ((fun served => (Answer.outcome served.1, served.2))
      ((cachedOrCompiled catalog registry bindings _ type).run.run c)) = _
    rw [cachedOrCompiled_of_unbound hc unbound]

/-- As long as there is a bound type outside the chain, the depth is not used up. -/
theorem exists_depth {depth : Nat} {chain : List EntityType} (outside : type ∉ chain)
    (distinct : chain.Nodup) (bound : ∀ t ∈ type :: chain, bindings.isBound t)
    (enough : bindings.size ≤ depth + chain.length) : ∃ d, depth = d + 1 := by
  have nodup : (type :: chain).Nodup := List.nodup_cons.mpr ⟨outside, distinct⟩
  have held : type :: chain ⊆ bindings.table.keys := fun t mem =>
    FiniteMap.contains_iff_mem_keys.mp (bound t mem)
  have fits := (List.subperm_of_subset nodup held).length_le
  rw [FiniteMap.length_keys, List.length_cons] at fits
  rw [Bindings.size] at enough
  exact Nat.exists_eq_add_one.mpr (by omega)

/-- Two bounds on the depth lead to the same answers, if both leave room for all bound types: the
types of the chain are bound and distinct, so that nothing is cut off. -/
theorem agree_depths {depth depth' : Nat} {chain : List EntityType} (distinct : chain.Nodup)
    (bound : ∀ t ∈ chain, bindings.isBound t) (enough : bindings.size ≤ depth + chain.length)
    (enough' : bindings.size ≤ depth' + chain.length) :
    Responder.Agree registry (fun c c' => c = c' ∧ c.OfBound bindings) chain
      (nestedResponder catalog registry bindings depth chain)
      (nestedResponder catalog registry bindings depth' chain) := by
  induction depth using Nat.strongRecOn generalizing depth' chain with
  | _ depth ih =>
    rintro type asked c _ ⟨⟨rfl, hc⟩, lacks⟩
    by_cases mem : type ∈ chain
    · rw [nestedResponder_of_mem mem, nestedResponder_of_mem mem]
      exact ⟨rfl, ⟨rfl, hc⟩, lacks⟩
    by_cases held : bindings.isBound type
    · have bound' : ∀ t ∈ type :: chain, bindings.isBound t :=
        List.forall_mem_cons.mpr ⟨held, bound⟩
      obtain ⟨depth, rfl⟩ := exists_depth mem distinct bound' enough
      obtain ⟨depth', rfl⟩ := exists_depth mem distinct bound' enough'
      have room (d : Nat) (h : bindings.size ≤ d + 1 + chain.length) :
          bindings.size ≤ d + (type :: chain).length := by
        rw [List.length_cons]
        omega
      have answers := ih depth depth.lt_succ_self (List.nodup_cons.mpr ⟨mem, distinct⟩) bound'
        (room depth enough) (room depth' enough')
      obtain ⟨same, kept, -⟩ := preserved_ofBound.upheld.agree_cachedOrCompiled mem answers
        (preserved_ofBound.upheld.stores type asked) ⟨⟨rfl, hc⟩, lacks⟩
      unfold nestedResponder
      rw [if_neg mem, if_neg mem]
      exact ⟨congrArg Answer.outcome same, kept⟩
    · rw [nestedResponder_of_unbound _ mem hc held, nestedResponder_of_unbound _ mem hc held]
      exact ⟨rfl, ⟨rfl, hc.reserve type⟩, lacks.reserve type⟩

/-- The bound on the depth of nested requests is never felt: a larger one changes nothing. -/
theorem ruleSetOf_eq_of_size_le {depth : Nat} (enough : bindings.size ≤ depth)
    (hc : c.OfBound bindings) :
    (cachedOrCompiled catalog registry bindings
      (nestedResponder catalog registry bindings depth [type]) type).run.run c
      = (ruleSetOf catalog registry bindings type).run.run c := by
  unfold ruleSetOf
  by_cases held : bindings.isBound type
  · have answers : Responder.Agree registry (fun c c' => c = c' ∧ c.OfBound bindings) [type]
        (nestedResponder catalog registry bindings depth [type])
        (nestedResponder catalog registry bindings bindings.size [type]) :=
      agree_depths (List.pairwise_singleton _ type) (List.forall_mem_singleton.mpr held)
        (Nat.le_add_right_of_le enough) (Nat.le_add_right _ _)
    obtain ⟨same, ⟨⟨kept, -⟩, -⟩, -⟩ := preserved_ofBound.upheld.agree_cachedOrCompiled
      (List.not_mem_nil (a := type)) answers (by
        rintro set start _ c _ - ⟨rfl, hc⟩ - -
        exact ⟨rfl, hc.stored held set⟩)
      ⟨⟨rfl, hc⟩, fun _ mem => absurd mem List.not_mem_nil⟩
    exact Prod.ext same kept
  · rw [cachedOrCompiled_of_unbound hc held, cachedOrCompiled_of_unbound hc held]

end Nesting
end Rulebook
