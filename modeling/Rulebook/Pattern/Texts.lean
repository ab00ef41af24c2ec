/-
Rulebook.Pattern.Texts — expressions that are choices between texts.

Whether one of a number of texts occurs is found by a search for them, without
automata.  That is done for choices that are written as very many texts, and
for expressions that amount to a few short ones.
-/
import Rulebook.Character.Encoding
import Rulebook.Pattern.Regex

namespace Rulebook.Regex

/-- The texts of a choice in which every branch is one. -/
def texts? : Regex → Option (List (List Char))
  | .text s => some [s]
  | .either (.text s) b => do return s :: (← b.texts?)
  | _ => none

/-! ## 1. Few texts -/

/-- The given texts, unless there are more than 250 or one of them takes more than 100 bytes. -/
def limited? (texts : List (List Char)) : Option (List (List Char)) :=
  if texts.length ≤ 250 && texts.all fun s => (Encoding.textBytes s).length ≤ 100 then some texts
  else none

/-- Every text of the first list with every text of the second after it. -/
def joined (first second : List (List Char)) : List (List Char) :=
  first.flatMap fun s => second.map (s ++ ·)

/-- The characters of a set, unless there are more than ten. -/
def members? (s : CharSet) : Option (List Char) :=
  let count := s.ranges.foldl (fun n r => n + (r.2 - r.1 + 1)) 0
  if 10 < count then none
  else some <| s.ranges.flatMap fun r =>
    (List.range (r.2 - r.1 + 1)).map fun i => Char.ofNat (r.1 + i)

/-- The texts that an expression amounts to a choice between, the preferred ones first, if they
are few and short and take no more than ten rounds of a repetition. -/
def fewTexts? : Regex → Option (List (List Char))
  | .empty => some [[]]
  | .text s => limited? [s]
  | .one set => do return (← members? set).map fun c => [c]
  | .look _ | .capture _ _ => none
  | .seq a b => do limited? (joined (← a.fewTexts?) (← b.fewTexts?))
  | .either a b => do limited? ((← a.fewTexts?) ++ (← b.fewTexts?))
  | .repeated a least most isGreedy => do
    let texts ← a.fewTexts?
    if texts.isEmpty then return if least = 0 then [[]] else []
    if least = 0 ∧ most = some 1 then limited? (if isGreedy then texts ++ [[]] else [] :: texts)
    else if most = some least ∧ least ≤ 10 then
      (List.replicate least texts).foldlM (fun found more => limited? (joined found more)) [[]]
    else none

/-! ## 2. Searching for texts -/

/-- Whether texts are searched for as they are: there are at most ten, none is empty, and if there
are several, they do not all begin alike. -/
def areSearched (texts : List (List Char)) : Bool :=
  match texts with
  | [] => false
  | first :: others =>
    texts.length ≤ 10 && texts.all (!·.isEmpty) &&
      (others.isEmpty || others.any fun s => s.head? != first.head?)

/-- The number of texts from which on a written choice between them is a search. -/
def manyTexts : Nat := 3000

/-- Whether the expression is matched by a search for texts. -/
def isSearch (r : Regex) : Bool :=
  (r.texts?.any fun texts => manyTexts ≤ texts.length) || r.fewTexts?.any areSearched

end Rulebook.Regex
