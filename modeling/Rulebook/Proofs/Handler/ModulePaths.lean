/-
Rulebook.Proofs.Handler.ModulePaths — modules are matched segment by segment.

Whether an entry lies in a module is decided on texts: that of the module is a
prefix of the entry's path, and what is left is empty or goes on with `::`.  Any
text may be given for the module, also one that is cut off between two colons or
in the middle of a name.  For entries with a proper path this comes to the same
as a comparison of segments: the segments of the given text, whatever they are,
come first among those of the path.  So `math` does not match `mathx`, and what
lies in a module lies in all modules around it.

  §1 Segments — paths split at `::`, character by character, and put together again.
  §2 Texts    — the library's splitting of texts does the same.
  §3 Modules  — entries with proper paths.
-/
import Mathlib.Data.List.Basic
import Rulebook.Handler.Discovery
import Rulebook.Handler.Numeric

namespace Rulebook

namespace Path

/-! ## 1. Segments -/

/-- The characters between the separators `::`, where the leftmost of overlapping ones counts. -/
def split : List Char → List (List Char)
  | [] => [[]]
  | ':' :: ':' :: cs => [] :: split cs
  | c :: cs => (split cs).modifyHead (c :: ·)

/-- The characters of a segment and of those that follow it. -/
def chars (first : List Char) (more : List (List Char)) : List Char :=
  first ++ more.flatMap fun segment => ':' :: ':' :: segment

/-- Nothing more, or another segment. -/
def GoesOn (rest : List Char) : Prop := rest = [] ∨ ∃ deeper, rest = ':' :: ':' :: deeper

theorem split_ne_nil (cs : List Char) : split cs ≠ [] := by
  fun_induction split cs with
  | case1 => exact List.cons_ne_nil _ _
  | case2 cs ih => exact List.cons_ne_nil _ _
  | case3 c cs _ ih => cases h : split cs <;> simp [h] at ih ⊢

theorem goesOn_flatMap (more : List (List Char)) :
    GoesOn (more.flatMap fun segment => ':' :: ':' :: segment) := by
  cases more with
  | nil => exact .inl rfl
  | cons segment more => exact .inr ⟨_, rfl⟩

theorem not_goesOn_cons {c : Char} (other : c ≠ ':') (rest : List Char) : ¬GoesOn (c :: rest) := by
  rintro (none | ⟨deeper, same⟩)
  · cases none
  · exact other (List.cons.inj same).1

/-- What follows a name goes on to the next segment, but the name itself does not. -/
theorem goesOn_chars_iff {first : List Char} (plain : ':' ∉ first) (more : List (List Char)) :
    GoesOn (chars first more) ↔ first = [] := by
  cases first with
  | nil => exact iff_of_true (goesOn_flatMap more) rfl
  | cons c first =>
    have other : c ≠ ':' := fun same => plain (same ▸ List.mem_cons_self)
    exact iff_of_false (not_goesOn_cons other _) (List.cons_ne_nil _ _)

/-- A colon is followed by a second one only where a separator is. -/
theorem not_goesOn_colon {first : List Char} (name : first ≠ [] ∧ ':' ∉ first)
    (more : List (List Char)) : ¬GoesOn (':' :: chars first more) := by
  obtain ⟨some, plain⟩ := name
  rintro (none | ⟨deeper, same⟩)
  · cases none
  · cases first with
    | nil => exact some rfl
    | cons c first => exact plain ((List.cons.inj (List.cons.inj same).2).1 ▸ List.mem_cons_self)

/-- A text is continued by another segment, or not at all, up to the characters of a path exactly if
its segments come first among those of the path.  The first segment of the path may be empty here,
so that the induction on the text can take its characters away one by one. -/
theorem continues_iff_prefix (cs : List Char) {first : List Char} {more : List (List Char)}
    (plain : ':' ∉ first) (names : ∀ segment ∈ more, segment ≠ [] ∧ ':' ∉ segment) :
    (∃ rest, cs ++ rest = chars first more ∧ GoesOn rest) ↔ split cs <+: first :: more := by
  fun_induction split cs generalizing first more with
  | case1 =>
    simp only [List.nil_append, exists_eq_left, List.cons_prefix_cons, List.nil_prefix, and_true]
    rw [goesOn_chars_iff plain, eq_comm]
  | case2 cs ih =>
    rw [List.cons_prefix_cons]
    cases first with
    | cons c first =>
      refine iff_of_false ?_ (fun both => (nomatch both.1))
      rintro ⟨rest, same, -⟩
      exact plain ((List.cons.inj same).1 ▸ List.mem_cons_self)
    | nil =>
      cases more with
      | nil =>
        refine iff_of_false ?_ (fun both => split_ne_nil cs (List.prefix_nil.mp both.2))
        rintro ⟨rest, same, -⟩
        cases same
      | cons segment more =>
        obtain ⟨name, names⟩ := List.forall_mem_cons.mp names
        rw [and_iff_right rfl, ← ih name.2 names]
        simp [chars]
  | case3 c cs single ih =>
    obtain ⟨piece, pieces, pieced⟩ := List.exists_cons_of_ne_nil (split_ne_nil cs)
    rw [pieced] at ih ⊢
    rw [List.modifyHead_cons, List.cons_prefix_cons]
    cases first with
    | cons d first =>
      have rest_plain : ':' ∉ first := fun mem => plain (List.mem_cons_of_mem _ mem)
      have step := ih rest_plain names
      rw [List.cons_prefix_cons] at step
      simp only [chars, List.cons_append, List.cons.injEq, and_assoc] at step ⊢
      rw [← step]
      simp
    | nil =>
      refine iff_of_false ?_ (fun both => (nomatch both.1))
      rintro ⟨rest, same, goesOn⟩
      cases more with
      | nil => cases same
      | cons segment more =>
        obtain ⟨rfl, follows⟩ := List.cons.inj same
        cases cs with
        | nil =>
          have colon : rest = ':' :: chars segment more := follows
          exact not_goesOn_colon (List.forall_mem_cons.mp names).1 more (colon ▸ goesOn)
        | cons d cs =>
          obtain ⟨rfl, -⟩ := List.cons.inj follows
          exact single cs rfl rfl

/-- Up to the first colon nothing is split. -/
theorem split_append {first : List Char} (plain : ':' ∉ first) (rest : List Char) :
    split (first ++ rest) = (split rest).modifyHead (first ++ ·) := by
  induction first with
  | nil => cases h : split rest <;> simp [h]
  | cons c first ih =>
    have other : c ≠ ':' := fun same => plain (same ▸ List.mem_cons_self)
    have rest_plain : ':' ∉ first := fun mem => plain (List.mem_cons_of_mem _ mem)
    rw [List.cons_append, split.eq_3 c _ fun _ colon _ => other colon, ih rest_plain]
    cases split rest <;> rfl

/-- A path is split into the segments that it was put together from. -/
theorem split_chars {first : List Char} {more : List (List Char)} (plain : ':' ∉ first)
    (names : ∀ segment ∈ more, segment ≠ [] ∧ ':' ∉ segment) :
    split (chars first more) = first :: more := by
  induction more generalizing first with
  | nil =>
    rw [chars, split_append plain]
    simp [split]
  | cons segment more ih =>
    obtain ⟨name, names⟩ := List.forall_mem_cons.mp names
    have next : split (':' :: ':' :: chars segment more) = [] :: segment :: more := by
      rw [split, ih name.2 names]
    have put : chars first (segment :: more) = first ++ ':' :: ':' :: chars segment more := by
      simp [chars]
    rw [put, split_append plain, next]
    simp

/-! ## 2. Texts -/

/-- The segments of a path: what its text is split into at `::`, from left to right. -/
def segments (path : String) : List String := (path.split "::").toList.map (·.copy)

open String.Slice.Pattern.Model ForwardStringSearcher

instance strictSeparator : StrictPatternModel "::" := strictPatternModel (by decide)

instance lawfulSeparator : LawfulToForwardSearcherModel "::" :=
  lawfulToForwardSearcherModel (by decide)

section Search

variable {s : String.Slice} {pos : s.Pos} {before : String}

/-- A separator that comes next is found. -/
theorem exists_separator {cs : List Char}
    (reached : pos.Splits before (String.ofList (':' :: ':' :: cs))) :
    ∃ past : s.Pos, IsLongestMatchAt "::" pos past ∧
      past.Splits (before ++ "::") (String.ofList cs) := by
  have colons : before ++ String.singleton ':' ++ String.singleton ':' = before ++ "::" := by
    simp [← String.toList_inj]
  have separated : String.ofList (':' :: ':' :: cs) = "::" ++ String.ofList cs := by
    simp [← String.toList_inj]
  have next := reached
  rw [String.ofList_cons, String.ofList_cons] at next
  have past := next.next.next
  rw [colons] at past
  rw [separated] at reached
  exact ⟨_, isLongestMatchAt_iff_splits.mpr ⟨before, _, reached, past⟩, past⟩

/-- No separator is found where none comes next. -/
theorem not_matchesAt {c : Char} {cs : List Char}
    (single : ∀ rest, c = ':' → cs = ':' :: rest → False)
    (reached : pos.Splits before (String.ofList (c :: cs))) : ¬MatchesAt "::" pos := by
  rw [matchesAt_iff_splits]
  rintro ⟨t, u, found⟩
  have same := congrArg String.toList (reached.eq_right found)
  simp only [String.toList_ofList, String.toList_append] at same
  obtain ⟨rfl, follows⟩ := List.cons.inj same
  exact single _ rfl follows

/-- The search for separators, from a position up to which a piece has been passed already. -/
theorem split_from (cs : List Char) {start : s.Pos} {piece : String} (le : start ≤ pos)
    (started : start.Splits before (piece ++ String.ofList cs))
    (reached : pos.Splits (before ++ piece) (String.ofList cs)) :
    (String.Slice.Pattern.Model.split "::" start pos le).map (·.toSlice.copy) =
      ((split cs).modifyHead (piece.toList ++ ·)).map String.ofList := by
  have passed : (s.slice start pos le).copy = piece :=
    (String.Slice.copy_slice_eq_iff_splits.mpr ⟨_, _, started, reached⟩).2
  fun_induction split cs generalizing start pos before piece with
  | case1 =>
    obtain rfl : pos = s.endPos := reached.eq_endPos_iff.mpr String.ofList_nil
    rw [split_endPos]
    simp [← passed]
  | case2 cs ih =>
    obtain ⟨past, found, next⟩ := exists_separator reached
    have next' : past.Splits (before ++ piece ++ "::" ++ "") (String.ofList cs) := by
      simpa using next
    rw [split_eq_of_isLongestMatchAt found, List.map_cons,
      ih (Std.le_refl _) (by simpa using next') next' (by simp)]
    cases split cs <;> simp [passed]
  | case3 c cs single ih =>
    have absent : ¬MatchesAt "::" pos := not_matchesAt single reached
    rw [String.ofList_cons] at reached
    have inside := reached.ne_endPos_of_singleton
    have next := reached.next
    rw [String.append_assoc] at next
    rw [String.ofList_cons, ← String.append_assoc] at started
    rw [split_eq_next_of_not_matchesAt inside absent,
      ih _ started next (String.Slice.copy_slice_eq_iff_splits.mpr ⟨_, _, started, next⟩).2]
    cases split cs <;> simp

end Search

/-- Texts are split as their characters are. -/
theorem segments_eq (path : String) : segments path = (split path.toList).map String.ofList := by
  have start : path.toSlice.startPos.Splits "" ("" ++ String.ofList path.toList) := by simp
  have whole := split_from path.toList (Std.le_refl path.toSlice.startPos) start (by simp)
  rw [segments, String.split_eq_split_toSlice, String.Slice.toList_split_eq_splitToSubslice,
    String.Slice.Pattern.toList_splitToSubslice_eq_modelSplit, List.map_map]
  refine whole.trans ?_
  cases split path.toList <;> simp

/-! ## 3. Modules -/

/-- The path is made of the segments: they are joined by `::`, there is at least one, and each is a
name, which is not empty and has no colon. -/
structure IsMadeOf (path : String) (segments : List String) : Prop where
  joined : path = String.intercalate "::" segments
  inhabited : segments ≠ []
  names : ∀ segment ∈ segments, segment ≠ "" ∧ ':' ∉ segment.toList

/-- The characters of a path are those of its segments. -/
theorem toList_intercalate (first : String) (more : List String) :
    (String.intercalate "::" (first :: more)).toList
      = chars first.toList (more.map String.toList) := by
  induction more generalizing first with
  | nil => simp [chars]
  | cons segment more ih =>
    rw [String.intercalate_cons_cons, String.toList_append, String.toList_append, ih]
    simp [chars]

/-- A proper path is one of characters. -/
theorem IsMadeOf.exists_chars {path : String} {segments : List String}
    (made : IsMadeOf path segments) :
    ∃ first more, path.toList = chars first more ∧
      segments = (first :: more).map String.ofList ∧ ':' ∉ first ∧
      ∀ segment ∈ more, segment ≠ [] ∧ ':' ∉ segment := by
  obtain ⟨first, more, rfl⟩ := List.exists_cons_of_ne_nil made.inhabited
  obtain ⟨name, names⟩ := List.forall_mem_cons.mp made.names
  refine ⟨first.toList, more.map String.toList, ?_, ?_, name.2, ?_⟩
  · rw [made.joined, toList_intercalate]
  · simp
  · intro segment mem
    obtain ⟨text, listed, rfl⟩ := List.mem_map.mp mem
    obtain ⟨some, plain⟩ := names text listed
    exact ⟨fun none => some (String.toList_eq_nil_iff.mp none), plain⟩

/-- A proper path has the segments that it is made of. -/
theorem IsMadeOf.segments_eq {path : String} {segments : List String}
    (made : IsMadeOf path segments) : Path.segments path = segments := by
  obtain ⟨first, more, chars, rfl, plain, names⟩ := made.exists_chars
  rw [Path.segments_eq, chars, split_chars plain names]

end Path

namespace HandlerEntry

variable {e : HandlerEntry} {m : String}

/-- An entry lies in a module if its path ends where that of the module does, or goes on there. -/
theorem isIn_iff :
    e.isIn m = true ↔ ∃ rest, m.toList ++ rest = e.module.toList ∧ Path.GoesOn rest := by
  have begins (rest : List Char) :
      "::".toList.isPrefixOf rest = true ↔ ∃ deeper, rest = ':' :: ':' :: deeper := by
    rw [List.isPrefixOf_iff_prefix]
    exact ⟨fun ⟨deeper, same⟩ => ⟨deeper, same.symm⟩, fun ⟨deeper, same⟩ => ⟨deeper, same.symm⟩⟩
  unfold isIn
  cases found : List.isPrefixOf? m.toList e.module.toList with
  | none =>
    refine iff_of_false Bool.false_ne_true ?_
    rintro ⟨rest, same, -⟩
    cases found.symm.trans (List.isPrefixOf?_eq_some_iff_append_eq.mpr same)
  | some rest =>
    rw [List.isPrefixOf?_eq_some_iff_append_eq] at found
    dsimp only
    rw [Bool.or_eq_true, List.isEmpty_iff, begins, ← found]
    simp [Path.GoesOn]

/-- With a proper path, an entry lies in the modules whose segments come first in its own. -/
theorem isIn_iff_prefix {segments : List String} (path : Path.IsMadeOf e.module segments) :
    e.isIn m = true ↔ Path.segments m <+: segments := by
  obtain ⟨first, more, chars, rfl, plain, names⟩ := path.exists_chars
  rw [isIn_iff, chars, Path.continues_iff_prefix _ plain names, Path.segments_eq,
    List.prefix_map_iff_of_injective fun _ _ => String.ofList_injective]

/-- What lies in a module lies in the modules around it. -/
theorem isIn_outer {outer deeper : String} (nested : m = outer ++ "::" ++ deeper)
    (inside : e.isIn m = true) : e.isIn outer = true := by
  obtain ⟨rest, same, -⟩ := isIn_iff.mp inside
  refine isIn_iff.mpr ⟨':' :: ':' :: (deeper.toList ++ rest), ?_, .inr ⟨_, rfl⟩⟩
  rw [← same, nested]
  simp

end HandlerEntry

/-- An entry whose path is properly made of segments lies in the module that a text gives, whatever
the text, exactly if the segments of the text come first among its own.  So it lies in all modules
around one that it lies in, and in none that has another name than its own path anywhere, however
much the texts of both begin alike. -/
theorem modules_match_segments (e : HandlerEntry) (segments : List String)
    (path : Path.IsMadeOf e.module segments) :
    Path.segments e.module = segments ∧
      (∀ m, e.isIn m = true ↔ Path.segments m <+: segments) ∧
      (∀ m outer deeper, m = outer ∨ m = outer ++ "::" ++ deeper →
        e.isIn m = true → e.isIn outer = true) ∧
      ∀ (m : String) (i : Nat) (own other : String), segments[i]? = some own →
        (Path.segments m)[i]? = some other → other ≠ own → e.isIn m = false := by
  refine ⟨path.segments_eq, fun m => HandlerEntry.isIn_iff_prefix path, ?_, ?_⟩
  · rintro m outer deeper (rfl | nested) inside
    · exact inside
    · exact HandlerEntry.isIn_outer nested inside
  · intro m i own other at_own at_other apart
    rw [Bool.eq_false_iff]
    intro inside
    obtain ⟨deeper, rfl⟩ := (HandlerEntry.isIn_iff_prefix path).mp inside
    obtain ⟨within, -⟩ := List.getElem?_eq_some_iff.mp at_other
    rw [List.getElem?_append_left within, at_other] at at_own
    exact apart (Option.some.inj at_own)

/-! ### Plugins -/

/-- A handler of even numbers, below the module of mathematics. -/
def parity : HandlerEntry := ⟨"plugins::math::parity", "Even", .even "Even"⟩

/-- The same in a module whose name goes on after that. -/
def mathx : HandlerEntry := ⟨"plugins::mathx", "Even", .even "Even"⟩

/-- Texts that are cut off in a name or after a colon match nothing, and the module of mathematics
does not match the other one. -/
theorem modules_match_segments_plugins :
    Path.IsMadeOf parity.module ["plugins", "math", "parity"] ∧
      Path.IsMadeOf mathx.module ["plugins", "mathx"] ∧
      ["plugins::math::parity", "plugins::math", "plugins"].map parity.isIn
        = [true, true, true] ∧
      ["", "plugins::", "plugins::math:", "plugins::mat"].map parity.isIn
        = [false, false, false, false] ∧
      mathx.isIn "plugins::math" = false := by
  have made : Path.IsMadeOf parity.module ["plugins", "math", "parity"] :=
    ⟨by decide, by decide, by decide⟩
  have made' : Path.IsMadeOf mathx.module ["plugins", "mathx"] :=
    ⟨by decide, by decide, by decide⟩
  obtain ⟨-, first, -, -⟩ := modules_match_segments parity _ made
  obtain ⟨-, -, -, apart⟩ := modules_match_segments mathx _ made'
  have matched (m : String) : parity.isIn m
      = decide ((Path.split m.toList).map String.ofList <+: ["plugins", "math", "parity"]) := by
    rw [Bool.eq_iff_iff, first, Path.segments_eq, decide_eq_true_iff]
  refine ⟨made, made', ?_, ?_, ?_⟩
  · simp only [List.map_cons, List.map_nil, matched]
    decide
  · simp only [List.map_cons, List.map_nil, matched]
    decide
  · refine apart "plugins::math" 1 "mathx" "math" rfl ?_ (by decide)
    rw [Path.segments_eq]
    decide

end Rulebook
