/-
Rulebook.FiniteMap — finite maps, and slots that are filled once.

Bindings, entity keys and the owners of operators live in finite maps.  Writing
to a map replaces what was there, so whoever must not overwrite an entry looks
first.  Compiled rule sets live in slots: a slot is reserved for a key, empty at
first, and the first value put into it stays.

Main statements: what `get?` answers after a write (`get?_insert`), that an
answer is kept when a vacant key is written (`get?_insert_of_vacant`), and that
slots show nothing but the values in them: to look at the slots is to look at
the map of the filled ones (`SlotMap.get?_filled`, `filled_reserve`, `filled_fill`).
-/

namespace Rulebook

/-! ## 1. Maps -/

/-- A finite map, with its entries in the order in which they were last written. -/
@[ext] structure FiniteMap (κ ν : Type) where
  entries : List (κ × ν)
  /-- No key has two entries. -/
  distinct : (entries.map (·.1)).Nodup

namespace FiniteMap

variable {κ ν : Type}

/-- The map without entries. -/
def empty : FiniteMap κ ν := ⟨[], .nil⟩

instance : EmptyCollection (FiniteMap κ ν) := ⟨empty⟩
instance : Inhabited (FiniteMap κ ν) := ⟨empty⟩

/-- The keys, in the order of their entries. -/
def keys (m : FiniteMap κ ν) : List κ := m.entries.map (·.1)

/-- The number of entries. -/
def size (m : FiniteMap κ ν) : Nat := m.entries.length

/-- Whether there are no entries. -/
def isEmpty (m : FiniteMap κ ν) : Bool := m.entries.isEmpty

theorem length_keys (m : FiniteMap κ ν) : m.keys.length = m.size := List.length_map _

theorem nodup_keys (m : FiniteMap κ ν) : m.keys.Nodup := m.distinct

variable [DecidableEq κ]

/-- What the map holds under a key. -/
def get? (m : FiniteMap κ ν) (k : κ) : Option ν := m.entries.lookup k

/-- Whether the map holds something under a key. -/
def contains (m : FiniteMap κ ν) (k : κ) : Bool := (m.get? k).isSome

/-- Writes an entry, in place of the one that the key may have. -/
def insert (m : FiniteMap κ ν) (k : κ) (v : ν) : FiniteMap κ ν where
  entries := m.entries.filter (fun entry => entry.1 ≠ k) ++ [(k, v)]
  distinct := by
    rw [List.map_append, List.nodup_append]
    refine ⟨m.distinct.sublist (List.filter_sublist.map _), by simp, fun a mem b here => ?_⟩
    obtain ⟨entry, kept, rfl⟩ := List.mem_map.mp mem
    obtain rfl : b = k := by simpa using here
    simpa using (List.mem_filter.mp kept).2

/-! ### Keys -/

theorem contains_iff_mem_keys {m : FiniteMap κ ν} {k : κ} : m.contains k = true ↔ k ∈ m.keys := by
  rw [contains, get?, List.lookup_isSome_iff, keys, List.mem_map]
  exact exists_congr fun entry => and_congr_right fun _ => beq_iff_eq.trans eq_comm

theorem get?_eq_none_iff {m : FiniteMap κ ν} {k : κ} : m.get? k = none ↔ k ∉ m.keys := by
  rw [← contains_iff_mem_keys, contains, Option.not_isSome_iff_eq_none]

/-! ### Writing -/

@[simp] theorem get?_empty (k : κ) : (∅ : FiniteMap κ ν).get? k = none := rfl

/-- Entries under other keys are found as before once those of a key are gone. -/
theorem lookup_filter (entries : List (κ × ν)) (k k' : κ) :
    (entries.filter fun entry => entry.1 ≠ k).lookup k'
      = if k' = k then none else entries.lookup k' := by
  induction entries with
  | nil => simp
  | cons entry entries ih =>
    by_cases e : entry.1 = k
    · subst e
      rw [List.filter_cons_of_neg (by simp), ih, List.lookup_cons]
      by_cases e' : k' = entry.1
      · simp [e']
      · have apart : (k' == entry.1) = false := by simp [e']
        simp [apart]
    · rw [List.filter_cons_of_pos (by simp [e]), List.lookup_cons, List.lookup_cons, ih]
      by_cases e' : k' = entry.1
      · simp [e', e]
      · have apart : (k' == entry.1) = false := by simp [e']
        simp [apart]

theorem get?_insert (m : FiniteMap κ ν) (k k' : κ) (v : ν) :
    (m.insert k v).get? k' = if k' = k then some v else m.get? k' := by
  unfold get? insert
  rw [List.lookup_append, lookup_filter, List.lookup_cons]
  by_cases e : k' = k
  · simp [e]
  · have apart : (k' == k) = false := by simp [e]
    simp [apart, e]

/-- What is found stays, when a key that has no entry gets one. -/
theorem get?_insert_of_vacant {m : FiniteMap κ ν} {k k' : κ} {w : ν} (found : m.get? k' = some w)
    (vacant : m.get? k = none) (v : ν) : (m.insert k v).get? k' = some w := by
  have apart : k' ≠ k := by
    rintro rfl
    cases found.symm.trans vacant
  rw [get?_insert, if_neg apart, found]

/-- A key that has no entry gets one at the end. -/
theorem entries_insert_of_none {m : FiniteMap κ ν} {k : κ} (vacant : m.get? k = none) (v : ν) :
    (m.insert k v).entries = m.entries ++ [(k, v)] := by
  refine congrArg (· ++ [(k, v)]) (List.filter_eq_self.mpr fun entry mem => decide_eq_true ?_)
  rintro rfl
  exact get?_eq_none_iff.mp vacant (List.mem_map_of_mem mem)

theorem keys_insert_of_none {m : FiniteMap κ ν} {k : κ} (vacant : m.get? k = none) (v : ν) :
    (m.insert k v).keys = m.keys ++ [k] := by
  rw [keys, entries_insert_of_none vacant, List.map_append]
  rfl

end FiniteMap

/-! ## 2. Slots -/

/-- Slots by key, some of them still empty. -/
structure SlotMap (κ ν : Type) where
  slots : FiniteMap κ (Option ν) := ∅

namespace SlotMap

variable {κ ν : Type}

instance : EmptyCollection (SlotMap κ ν) := ⟨{}⟩
instance : Inhabited (SlotMap κ ν) := ⟨∅⟩

/-- The number of slots that hold a value. -/
def size (m : SlotMap κ ν) : Nat := m.slots.entries.countP (·.2.isSome)

/-- Whether no slot holds a value. -/
def isEmpty (m : SlotMap κ ν) : Bool := m.size == 0

/-- A slot as an entry, if it holds a value. -/
def content? (slot : κ × Option ν) : Option (κ × ν) := slot.2.map (slot.1, ·)

theorem map_fst_filterMap_sublist (slots : List (κ × Option ν)) :
    ((slots.filterMap content?).map (·.1)).Sublist (slots.map (·.1)) := by
  induction slots with
  | nil => exact .slnil
  | cons slot slots ih =>
    obtain ⟨k, _ | v⟩ := slot
    · exact ih.cons k
    · exact ih.cons_cons k

/-- The values that are there, without the empty slots. -/
def filled (m : SlotMap κ ν) : FiniteMap κ ν where
  entries := m.slots.entries.filterMap content?
  distinct := m.slots.distinct.sublist (map_fst_filterMap_sublist m.slots.entries)

/-- The keys of the slots that hold a value. -/
def keys (m : SlotMap κ ν) : List κ := m.filled.keys

theorem length_keys (m : SlotMap κ ν) : m.keys.length = m.size := by
  rw [keys, FiniteMap.length_keys, FiniteMap.size, filled, size, List.length_filterMap_eq_countP]
  simp only [content?, Option.isSome_map]

variable [DecidableEq κ]

/-- The value in the slot of a key. -/
def get? (m : SlotMap κ ν) (k : κ) : Option ν := (m.slots.get? k).join

/-- Reserves an empty slot for a key, unless it has one. -/
def reserve (m : SlotMap κ ν) (k : κ) : SlotMap κ ν :=
  if m.slots.contains k then m else ⟨m.slots.insert k none⟩

/-- Puts a value into the slot of a key, unless there is one in it. -/
def fill (m : SlotMap κ ν) (k : κ) (v : ν) : SlotMap κ ν :=
  match m.get? k with
  | some _ => m
  | none => ⟨m.slots.insert k (some v)⟩

/-! ### What slots show -/

@[simp] theorem get?_empty (k : κ) : (∅ : SlotMap κ ν).get? k = none := rfl

theorem get?_filled (m : SlotMap κ ν) (k : κ) : m.filled.get? k = m.get? k := by
  obtain ⟨entries, distinct⟩ := m
  simp only [filled, get?, FiniteMap.get?]
  induction entries with
  | nil => rfl
  | cons slot entries ih =>
    obtain ⟨first, v?⟩ := slot
    obtain ⟨new, others⟩ := List.nodup_cons.mp distinct
    specialize ih others
    rw [List.filterMap_cons, List.lookup_cons]
    by_cases e : k = first
    · subst e
      have vacant : entries.lookup k = none :=
        (FiniteMap.get?_eq_none_iff (m := ⟨entries, others⟩)).mpr new
      rw [vacant] at ih
      cases v? <;> simp [content?, ih]
    · have apart : (k == first) = false := by simp [e]
      cases v? <;> simp [content?, apart, List.lookup_cons, ih]

/-- An empty slot does not show. -/
theorem filled_reserve (m : SlotMap κ ν) (k : κ) : (m.reserve k).filled = m.filled := by
  unfold reserve
  split
  · rfl
  · rename_i new
    have vacant : m.slots.get? k = none := by
      rwa [FiniteMap.contains, Option.not_isSome_iff_eq_none] at new
    ext1
    simp only [filled, FiniteMap.entries_insert_of_none vacant, List.filterMap_append]
    exact List.append_nil _

/-- What is put into an empty slot shows as written there. -/
theorem filled_fill {m : SlotMap κ ν} {k : κ} (vacant : m.get? k = none) (v : ν) :
    (m.fill k v).filled = m.filled.insert k v := by
  rw [fill, vacant]
  ext1
  simp only [filled, FiniteMap.insert, List.filterMap_append, List.filter_filterMap,
    List.filterMap_filter]
  refine congrArg (· ++ [(k, v)]) (congrArg (List.filterMap · m.slots.entries) (funext ?_))
  rintro ⟨first, _ | w⟩ <;> by_cases e : first = k <;> simp [content?, e, Option.filter]

theorem contains_iff_mem_keys {m : SlotMap κ ν} {k : κ} :
    (∃ v, m.get? k = some v) ↔ k ∈ m.keys := by
  rw [keys, ← FiniteMap.contains_iff_mem_keys, FiniteMap.contains, get?_filled,
    Option.isSome_iff_exists]

theorem get?_eq_none_iff {m : SlotMap κ ν} {k : κ} : m.get? k = none ↔ k ∉ m.keys := by
  rw [keys, ← FiniteMap.get?_eq_none_iff, get?_filled]

theorem get?_reserve (m : SlotMap κ ν) (k k' : κ) : (m.reserve k).get? k' = m.get? k' := by
  rw [← get?_filled, filled_reserve, get?_filled]

theorem keys_reserve (m : SlotMap κ ν) (k : κ) : (m.reserve k).keys = m.keys := by
  rw [keys, filled_reserve, keys]

theorem fill_of_some {m : SlotMap κ ν} {k : κ} {w : ν} (full : m.get? k = some w) (v : ν) :
    m.fill k v = m := by
  rw [fill, full]

theorem get?_fill (m : SlotMap κ ν) (k k' : κ) (v : ν) :
    (m.fill k v).get? k' = if k' = k then some ((m.get? k).getD v) else m.get? k' := by
  cases full : m.get? k with
  | some w =>
    rw [fill_of_some full]
    split
    · rename_i e
      rw [e, full, Option.getD_some]
    · rfl
  | none =>
    rw [← get?_filled, filled_fill full, FiniteMap.get?_insert, get?_filled, Option.getD_none]

theorem get?_fill_of_some {m : SlotMap κ ν} {k' : κ} {w : ν} (full : m.get? k' = some w)
    (k : κ) (v : ν) : (m.fill k v).get? k' = some w := by
  rw [get?_fill]
  split
  · rename_i e
    rw [← e, full, Option.getD_some]
  · exact full

theorem keys_fill_of_none {m : SlotMap κ ν} {k : κ} (vacant : m.get? k = none) (v : ν) :
    (m.fill k v).keys = m.keys ++ [k] := by
  have shown : m.filled.get? k = none := by rw [get?_filled, vacant]
  rw [keys, filled_fill vacant, FiniteMap.keys_insert_of_none shown, keys]

end SlotMap
end Rulebook
