/-
Rulebook.Pattern.Meaning — from written patterns to regular expressions.

Flags are threaded from left to right: a switch counts for what follows it in
its group, also in later alternatives.  With the Unicode flag off, classes are
sets of ASCII characters; whatever would leave ASCII there could match half of
a character and is refused.
-/
import Rulebook.Character.Folding
import Rulebook.Pattern.Expr
import Rulebook.Pattern.Plain

namespace Rulebook.Pattern

/-- The flags that the meaning of a part depends on. -/
structure Flags where
  ignoreCase : Bool := false
  multiLine : Bool := false
  dotMatchesNewline : Bool := false
  swapGreed : Bool := false
  unicode : Bool := true
  returnLines : Bool := false
deriving DecidableEq, Repr

namespace Flags

/-- Switches one flag. -/
def switch (f : Flags) : Flag × Bool → Flags
  | (.ignoreCase, on) => { f with ignoreCase := on }
  | (.multiLine, on) => { f with multiLine := on }
  | (.dotMatchesNewline, on) => { f with dotMatchesNewline := on }
  | (.unicode, on) => { f with unicode := on }
  | (.returnLines, on) => { f with returnLines := on }
  | (.swapGreed, on) => { f with swapGreed := on }
  | (.verbose, _) => f

/-- Switches several flags. -/
def apply (f : Flags) (change : FlagChange) : Flags := change.foldl switch f

/-- A set with what differs from its members in case alone, if case is ignored. -/
def fold (f : Flags) (s : CharSet) : CharSet :=
  if !f.ignoreCase then s
  else if f.unicode then Folding.closure s
  else Folding.asciiClosure s

/-- A set folded and, if asked for, complemented; without Unicode it must stay in ASCII. -/
def foldAndNegate (f : Flags) (negated : Bool) (s : CharSet) : Except Fault CharSet :=
  let folded := f.fold s
  if !negated then .ok folded
  else if f.unicode then .ok folded.complement
  else .error .notText

/-! ## 1. Characters and classes -/

/-- The ASCII characters of a named class. -/
def asciiSet (name : String) : CharSet := ⟨(asciiClass? name).getD []⟩

/-- The characters of a class with a letter of its own. -/
def letterMembers (f : Flags) (c : LetterClass) : CharSet :=
  match c, f.unicode with
  | .digit, true => .digits
  | .digit, false => asciiSet "digit"
  | .space, true => .spaces
  | .space, false => asciiSet "space"
  | .word, true => .wordCharacters
  | .word, false => asciiSet "word"

/-- A class with a letter of its own; it holds both cases of its letters already. -/
def letterSet (f : Flags) (negated : Bool) (c : LetterClass) : Except Fault CharSet :=
  let members := f.letterMembers c
  if !negated then .ok members
  else if f.unicode then .ok members.complement
  else .error .notText

/-- The characters of a property. -/
def propertySet (f : Flags) (negated : Bool) (q : PropertyQuery) : Except Fault CharSet :=
  if !f.unicode then .error .unicodeRequired
  else match q.find with
    | some members => f.foldAndNegate negated members
    | none => .error .propertyUnknown

/-- Without Unicode, a character written as a byte must be ASCII. -/
def checkLiteral (f : Flags) (l : Literal) : Except Fault Unit :=
  if !f.unicode && l.isByte && 0x7F < l.char.toNat then .error .notText else .ok ()

/-- The code of a character of a class; without Unicode it must be ASCII. -/
def classCode (f : Flags) (l : Literal) : Except Fault Nat := do
  f.checkLiteral l
  if !f.unicode && 0x7F < l.char.toNat then throw .unicodeRequired
  return l.char.toNat

/-- The characters of a class, before it is negated as a whole. -/
def setMembers (f : Flags) : SetExpr → Except Fault CharSet
  | .nothing => .ok .empty
  | .literal l => do return .single (← f.classCode l)
  | .range first last => do return .ofRanges [(← f.classCode first, ← f.classCode last)]
  | .ascii negated ranges => f.foldAndNegate negated ⟨ranges⟩
  | .letter negated c => f.letterSet negated c
  | .property negated q => f.propertySet negated q
  | .nested negated s => do f.foldAndNegate negated (← f.setMembers s)
  | .union s t => do
    let left ← f.setMembers s
    let right ← f.setMembers t
    return left.union right
  | .combine op s t => do
    let left := f.fold (← f.setMembers s)
    let right := f.fold (← f.setMembers t)
    return match op with
      | .intersection => left.inter right
      | .difference => left.diff right
      | .symmetricDifference => left.symmDiff right

/-! ## 2. Places -/

/-- The condition that an anchor stands for. -/
def anchorLook (f : Flags) : Anchor → Look
  | .caret =>
    if !f.multiLine then .textStart else if f.returnLines then .returnLineStart else .lineStart
  | .dollar =>
    if !f.multiLine then .textEnd else if f.returnLines then .returnLineEnd else .lineEnd
  | .textStart => .textStart
  | .textEnd => .textEnd
  | .word look => .word look (f.letterMembers .word)

/-- The characters that a dot stands for. -/
def dotSet (f : Flags) : Except Fault CharSet :=
  if !f.unicode then .error .notText
  else if f.dotMatchesNewline then .ok .full
  else if f.returnLines then .ok (CharSet.ofCodes [0x0A, 0x0D]).complement
  else .ok (CharSet.single 0x0A).complement

end Flags

/-! ## 3. Patterns -/

/-- Alternatives, each a list of parts. -/
abbrev Alternatives := List (List Regex)

namespace Alternatives

/-- The expression for alternatives. -/
def regex (alternatives : Alternatives) : Regex := .choice (alternatives.map .sequence)

/-- The parts of a sequence that alternatives contribute. -/
def parts (alternatives : Alternatives) : List Regex :=
  match alternatives with
  | [parts] => parts
  | _ => [alternatives.regex]

/-- A single part. -/
def ofPart (r : Regex) : Alternatives := [[r]]

end Alternatives

/-- The alternatives that a pattern means under flags, and the flags after it. -/
def Expr.meaning (f : Flags) : Expr → Except Fault (Alternatives × Flags)
  | .empty => .ok (.ofPart .empty, f)
  | .flags change => .ok (.ofPart .empty, f.apply change)
  | .literal l => do
    f.checkLiteral l
    return (.ofPart (.ofSet (f.fold (.single l.char.toNat))), f)
  | .dot => do return (.ofPart (.ofSet (← f.dotSet)), f)
  | .anchor a => .ok (.ofPart (.look (f.anchorLook a)), f)
  | .letter negated c => do return (.ofPart (.ofSet (← f.letterSet negated c)), f)
  | .property negated q => do return (.ofPart (.ofSet (← f.propertySet negated q)), f)
  | .set negated s => do
    let members ← f.setMembers s
    return (.ofPart (.ofSet (← f.foldAndNegate negated members)), f)
  | .repeated e least most isLazy => do
    let (alternatives, after) ← e.meaning f
    let isGreedy := isLazy == after.swapGreed
    return (.ofPart (alternatives.regex.rounds least most isGreedy), after)
  | .group number change e => do
    let (alternatives, _) ← e.meaning (f.apply change)
    let r := alternatives.regex
    return (.ofPart (match number with | some n => .capture n r | none => r), f)
  | .seq a b => do
    let (left, f) ← a.meaning f
    let (right, f) ← b.meaning f
    return ([left.parts ++ right.parts], f)
  | .either a b => do
    let (left, f) ← a.meaning f
    let (right, f) ← b.meaning f
    return (left ++ right, f)

end Rulebook.Pattern
