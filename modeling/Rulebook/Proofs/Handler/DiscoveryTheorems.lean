/-
Rulebook.Proofs.Handler.DiscoveryTheorems — what discovery adds to a registry.

Discovery takes the entries that lie in given modules, in the order of their paths
and names, and registers them one by one.  Of that only the newcomers matter: the
first entry of every type that is not registered yet.  Since the order is one of
the entries themselves, it does not matter in which order the entries or modules
are given, as long as no two entries stand at the same place.

  §1 Places    — the order of entries.
  §2 Found     — the entries that lie in the modules, in order.
  §3 Newcomers — which entries are added, and that the others change nothing.
  §4 Discovery — discoveries as such, and one after the other.
-/
import Rulebook.Handler.Fixed
import Rulebook.Proofs.Handler.RegistryRuns

namespace Rulebook

/-! ## 1. Places -/

theorem isLE_compare_iff {a b : String} : (compare a b).isLE = true ↔ a ≤ b := by
  cases order : compare a b with
  | lt => exact iff_of_true rfl (String.not_lt.mp (String.lt_asymm (lt_of_compare order)))
  | eq =>
    obtain rfl := Std.LawfulEqCmp.eq_of_compare order
    exact iff_of_true rfl (String.le_refl _)
  | gt =>
    have turned : compare b a = .lt := Std.OrientedCmp.lt_of_gt order
    exact iff_of_false nofun (String.not_le.mpr (lt_of_compare turned))

namespace HandlerEntry

/-- The type of the handler that the entry declares. -/
def type (e : HandlerEntry) : TypeId := e.handler.type

/-- Where the entry stands among others. -/
def place (e : HandlerEntry) : String × String := (e.module, e.name)

/-- The entry stands before the other one or at the same place: paths are compared first, and names
where the paths are the same. -/
def Precedes (a b : HandlerEntry) : Prop :=
  a.module < b.module ∨ a.module = b.module ∧ a.name ≤ b.name

/-- The entry lies in one of the modules. -/
def LiesIn (e : HandlerEntry) (modules : List String) : Prop := ∃ m ∈ modules, e.isIn m = true

theorem le_iff {a b : HandlerEntry} : a.le b = true ↔ a.Precedes b := by
  unfold le Precedes
  cases order : compare a.module b.module with
  | lt => exact iff_of_true rfl (.inl (lt_of_compare order))
  | eq =>
    have same := Std.LawfulEqCmp.eq_of_compare order
    rw [Ordering.then, isLE_compare_iff]
    constructor
    · exact fun names => .inr ⟨same, names⟩
    · rintro (before | ⟨-, names⟩)
      · exact absurd (same ▸ before) (String.lt_irrefl _)
      · exact names
  | gt =>
    have after : b.module < a.module := lt_of_compare (Std.OrientedCmp.lt_of_gt order)
    refine iff_of_false nofun ?_
    rintro (before | ⟨same, -⟩)
    · exact String.lt_asymm after before
    · exact absurd (same ▸ after) (String.lt_irrefl _)

theorem Precedes.refl (a : HandlerEntry) : a.Precedes a := .inr ⟨rfl, String.le_refl _⟩

theorem Precedes.place_eq {a b : HandlerEntry} (ab : a.Precedes b) (ba : b.Precedes a) :
    a.place = b.place := by
  rcases ab with before | ⟨same, ab⟩
  · rcases ba with after | ⟨same, -⟩
    · exact absurd after (String.lt_asymm before)
    · exact absurd (same ▸ before) (String.lt_irrefl _)
  · rcases ba with after | ⟨-, ba⟩
    · exact absurd (same ▸ after) (String.lt_irrefl _)
    · exact Prod.ext same (String.le_antisymm ab ba)

end HandlerEntry

namespace Registry

/-! ## 2. Found -/

section Found

variable {entries : List HandlerEntry} {modules : List String}

theorem mem_found {e : HandlerEntry} :
    e ∈ found entries modules ↔ e ∈ entries ∧ e.LiesIn modules := by
  rw [found, List.mem_mergeSort, List.mem_filter, List.any_eq_true]
  rfl

theorem mem_types_found {type : TypeId} :
    type ∈ (found entries modules).map (·.type) ↔
      ∃ e ∈ entries, e.LiesIn modules ∧ e.type = type := by
  simp only [List.mem_map, mem_found, and_assoc]

/-- What is found comes in order. -/
theorem pairwise_found (entries : List HandlerEntry) (modules : List String) :
    (found entries modules).Pairwise HandlerEntry.Precedes :=
  (pairwise_mergeSort_isLE
    (compareLex (compareOn HandlerEntry.module) (compareOn HandlerEntry.name)) _).imp
    HandlerEntry.le_iff.mp

/-- Modules count as a set. -/
theorem found_congr {modules' : List String} (same : ∀ m, m ∈ modules' ↔ m ∈ modules) :
    found entries modules' = found entries modules := by
  have lies (e : HandlerEntry) : modules'.any e.isIn = modules.any e.isIn := by
    rw [Bool.eq_iff_iff, List.any_eq_true, List.any_eq_true]
    simp only [same]
  simp only [found, lies]

/-- The order of the entries counts only where two stand at one place. -/
theorem found_perm {entries' : List HandlerEntry} (distinct : (entries.map (·.place)).Nodup)
    (perm : entries'.Perm entries) : found entries' modules = found entries modules := by
  have perm_found : (found entries' modules).Perm (found entries modules) :=
    (List.mergeSort_perm _ _).trans ((perm.filter _).trans (List.mergeSort_perm _ _).symm)
  refine List.Perm.eq_of_pairwise ?_ (pairwise_found _ _) (pairwise_found _ _) perm_found
  intro a b mem mem' ab ba
  exact List.inj_on_of_nodup_map distinct (mem_found.mp (perm_found.mem_iff.mp mem)).1
    (mem_found.mp mem').1 (ab.place_eq ba)

end Found

/-! ## 3. Newcomers -/

/-- The entries of types that are not known, the first of each type. -/
def newcomers (known : List TypeId) : List HandlerEntry → List HandlerEntry
  | [] => []
  | e :: es =>
    if e.type ∈ known then newcomers known es
    else e :: newcomers (known ++ [e.type]) es

/-- Registering entries adds the newcomers, in their order, and counts them. -/
theorem registerAll_newcomers (r : Registry) (es : List HandlerEntry) :
    (r.registerAll es).1 = (newcomers r.types es).length ∧
      (r.registerAll es).2.handlers = r.handlers ++ (newcomers r.types es).map (·.handler) := by
  induction es generalizing r with
  | nil => simp [registerAll, newcomers]
  | cons e es ih =>
    rw [registerAll, newcomers]
    by_cases known : e.type ∈ r.types
    · rw [if_pos known, register_of_mem known]
      simpa using ih r
    · obtain ⟨added, handlers⟩ := register_of_not_mem known
      obtain ⟨count, rest⟩ := ih (r.register e.handler).2
      have types : (r.register e.handler).2.types = r.types ++ [e.type] := by
        rw [Registry.types, handlers, List.map_append]
        rfl
      rw [types] at count rest
      rw [handlers] at rest
      simp only [if_neg known, added, if_true, count, rest]
      simp [Nat.add_comm]

section Newcomers

variable {known : List TypeId} {es : List HandlerEntry}

theorem newcomers_sublist (known : List TypeId) (es : List HandlerEntry) :
    (newcomers known es).Sublist es := by
  induction es generalizing known with
  | nil => exact List.Sublist.refl _
  | cons e es ih =>
    unfold newcomers
    split
    · exact (ih known).cons e
    · exact (ih _).cons_cons e

/-- The newcomers have the types that are not known, each once. -/
theorem mem_types_newcomers {type : TypeId} :
    type ∈ (newcomers known es).map (·.type) ↔
      type ∈ es.map (·.type) ∧ type ∉ known := by
  induction es generalizing known with
  | nil => simp [newcomers]
  | cons e es ih =>
    unfold newcomers
    split
    · rename_i old
      rw [ih, List.map_cons, List.mem_cons]
      constructor
      · rintro ⟨mem, new⟩
        exact ⟨.inr mem, new⟩
      · rintro ⟨rfl | mem, new⟩
        · exact absurd old new
        · exact ⟨mem, new⟩
    · rename_i new
      rw [List.map_cons, List.mem_cons, ih, List.map_cons, List.mem_cons]
      by_cases same : type = e.type
      · simp [same, new]
      · simp [same]

theorem nodup_types_newcomers (known : List TypeId) (es : List HandlerEntry) :
    ((newcomers known es).map (·.type)).Nodup := by
  induction es generalizing known with
  | nil => exact List.nodup_nil
  | cons e es ih =>
    unfold newcomers
    split
    · exact ih known
    · refine List.nodup_cons.mpr ⟨?_, ih _⟩
      intro again
      exact (mem_types_newcomers.mp again).2 (List.mem_append_right _ (List.mem_singleton.mpr rfl))

/-- In a list in order, a newcomer precedes all entries of its type. -/
theorem precedes_of_newcomer (ordered : es.Pairwise HandlerEntry.Precedes) {a e : HandlerEntry}
    (new : a ∈ newcomers known es) (mem : e ∈ es) (same : e.type = a.type) :
    a.Precedes e := by
  induction es generalizing known with
  | nil => cases mem
  | cons first es ih =>
    obtain ⟨least, ordered⟩ := List.pairwise_cons.mp ordered
    have type_new : a.type ∉ known :=
      (mem_types_newcomers.mp (List.mem_map_of_mem new)).2
    unfold newcomers at new
    split at new
    · rename_i old
      rcases List.mem_cons.mp mem with rfl | mem
      · exact absurd (same ▸ old) type_new
      · exact ih ordered new mem
    · rcases List.mem_cons.mp new with rfl | new
      · rcases List.mem_cons.mp mem with rfl | mem
        · exact .refl _
        · exact least e mem
      · rcases List.mem_cons.mp mem with rfl | mem
        · refine absurd ?_ (mem_types_newcomers.mp (List.mem_map_of_mem new)).2
          exact List.mem_append_right _ (List.mem_singleton.mpr same.symm)
        · exact ih ordered new mem

end Newcomers

/-- Entries of types that are registered change nothing. -/
theorem registerAll_of_known {r : Registry} {es : List HandlerEntry}
    (known : ∀ e ∈ es, e.type ∈ r.types) : r.registerAll es = (0, r) := by
  induction es with
  | nil => rfl
  | cons e es ih =>
    rw [registerAll, register_of_mem (known e List.mem_cons_self)]
    simp [ih fun e mem => known e (List.mem_cons_of_mem _ mem)]

/-! ## 4. Discovery -/

/-- After a discovery, the types are those from before and those of the entries in the modules. -/
theorem mem_types_discover {r : Registry} {entries : List HandlerEntry} {modules : List String}
    {type : TypeId} :
    type ∈ (r.discover entries modules).2.types ↔
      type ∈ r.types ∨ ∃ e ∈ entries, e.LiesIn modules ∧ e.type = type := by
  have added : (r.discover entries modules).2.types
      = r.types ++ (newcomers r.types (found entries modules)).map (·.type) := by
    rw [types, discover, (registerAll_newcomers r _).2, List.map_append, List.map_map]
    rfl
  rw [added, List.mem_append, mem_types_newcomers, mem_types_found]
  by_cases known : type ∈ r.types <;> simp [known]

/-- After a run of discoveries, the types are those from before and those of the entries in the
modules of any of them. -/
theorem mem_types_run {r : Registry} {calls : List (List HandlerEntry × List String)}
    {type : TypeId} :
    type ∈ (r.run (calls.map fun call => .discovery call.1 call.2)).types ↔
      type ∈ r.types ∨
        ∃ call ∈ calls, ∃ e ∈ call.1, e.LiesIn call.2 ∧ e.type = type := by
  induction calls generalizing r with
  | nil => simp [run]
  | cons call calls ih =>
    have first : type ∈ (r.discover call.1 call.2).2.types ↔ _ := mem_types_discover
    rw [List.map_cons, run, List.foldl_cons]
    refine ih.trans ?_
    rw [after, first, List.exists_mem_cons_iff, or_assoc]

/-- A discovery that is repeated finds nobody new. -/
theorem discover_again (r : Registry) (entries : List HandlerEntry) (modules : List String) :
    (r.discover entries modules).2.discover entries modules
      = (0, (r.discover entries modules).2) := by
  refine registerAll_of_known fun e mem => mem_types_discover.mpr (.inr ?_)
  obtain ⟨listed, lies⟩ := mem_found.mp mem
  exact ⟨e, listed, lies, rfl⟩

end Registry

/-- A discovery adds, at the end and in the order of places, one handler for each type that is not
registered and has an entry in one of the modules, namely that of the type's first entry; it adds
nothing else, and answers how many it has added.  The modules count as a set; the order of the
entries does not count, if no two of them stand at one place.  A discovery that is repeated changes
nothing, and which types are registered after several discoveries does not depend on their order. -/
theorem discovery_exact (r : Registry) (entries : List HandlerEntry) (modules : List String) :
    (∃ added : List HandlerEntry,
      (r.discover entries modules).2.handlers = r.handlers ++ added.map (·.handler) ∧
        (r.discover entries modules).1 = added.length ∧
        added.Pairwise HandlerEntry.Precedes ∧ (added.map (·.type)).Nodup ∧
        (∀ type, type ∈ added.map (·.type) ↔
          (∃ e ∈ entries, e.LiesIn modules ∧ e.type = type) ∧ type ∉ r.types) ∧
        ∀ a ∈ added, (a ∈ entries ∧ a.LiesIn modules) ∧
          ∀ e ∈ entries, e.LiesIn modules → e.type = a.type → a.Precedes e) ∧
      (∀ modules', (∀ m, m ∈ modules' ↔ m ∈ modules) →
        r.discover entries modules' = r.discover entries modules) ∧
      (∀ entries' : List HandlerEntry, entries'.Perm entries → (entries.map (·.place)).Nodup →
        r.discover entries' modules = r.discover entries modules) ∧
      (r.discover entries modules).2.discover entries modules
        = (0, (r.discover entries modules).2) ∧
      ∀ calls calls' : List (List HandlerEntry × List String), calls.Perm calls' →
        ∀ type,
          type ∈ (r.run (calls.map fun call => .discovery call.1 call.2)).types ↔
            type ∈ (r.run (calls'.map fun call => .discovery call.1 call.2)).types := by
  refine ⟨?_, fun modules' same => ?_, fun entries' perm distinct => ?_,
    r.discover_again entries modules, fun calls calls' perm type => ?_⟩
  · obtain ⟨count, handlers⟩ := r.registerAll_newcomers (Registry.found entries modules)
    have sub := Registry.newcomers_sublist r.types (Registry.found entries modules)
    have ordered := Registry.pairwise_found entries modules
    refine ⟨_, handlers, count, ordered.sublist sub, Registry.nodup_types_newcomers _ _,
      fun type => ?_, fun a new => ⟨Registry.mem_found.mp (sub.subset new), ?_⟩⟩
    · rw [Registry.mem_types_newcomers, Registry.mem_types_found]
    · intro e listed lies same
      exact Registry.precedes_of_newcomer ordered new (Registry.mem_found.mpr ⟨listed, lies⟩) same
  · rw [Registry.discover, Registry.found_congr same]
    rfl
  · rw [Registry.discover, Registry.found_perm distinct perm]
    rfl
  · simp only [Registry.mem_types_run, perm.mem_iff]

/-! ### Shops -/

/-- Handlers of a shop, two of them of one type, and one of another module. -/
def shopEntries : List HandlerEntry :=
  [⟨"shop::parts", "Nail", .fixed "Nail" [.equal] true⟩,
    ⟨"shop::parts::spare", "Nail", .fixed "Nail" [.lessThan] true⟩,
    ⟨"shop::tools", "Saw", .fixed "Saw" [.greaterThan] true⟩,
    ⟨"shopping", "List", .fixed "List" [.notEqual] true⟩]

/-- However the entries are ordered, one handler of each type is found in the shop, once. -/
theorem discovery_exact_shops :
    let found := Registry.empty.discover shopEntries.reverse ["shop"]
    found.1 = 2 ∧ found.2.handlers.map (·.typeName) = ["Nail", "Saw"] ∧
      found.2.resolve .lessThan = none ∧
      found.2.discover shopEntries.reverse ["shop"] = (0, found.2) := by
  intro found
  have in_order : Registry.found shopEntries ["shop"] = shopEntries.take 3 :=
    List.mergeSort_of_pairwise (by decide)
  obtain ⟨-, -, reordered, -⟩ := discovery_exact Registry.empty shopEntries ["shop"]
  obtain ⟨-, -, -, again, -⟩ := discovery_exact Registry.empty shopEntries.reverse ["shop"]
  have registered : found = Registry.empty.registerAll (shopEntries.take 3) := by
    rw [← in_order]
    exact reordered _ shopEntries.reverse_perm (by decide)
  refine ⟨?_, ?_, ?_, again⟩
  · rw [registered]
    decide
  · rw [registered]
    decide
  · rw [registered]
    rfl

end Rulebook
