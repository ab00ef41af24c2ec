/-
Rulebook.Pattern.Reader — reading a pattern from text.

Reading goes from left to right and never back over what it has accepted, up to
two places where a bracket or a brace may turn out not to open what it seemed
to open.  In verbose mode blanks and comments between the parts are skipped.
Groups and classes recurse on a budget, of which every step takes one and reads
at least one character.

With each part its depth is computed: how many groups, repetitions, classes,
alternatives and sequences lie above its deepest leaf.  A limit on that depth
ends patterns that could not be worked on otherwise.
-/
import Rulebook.Pattern.Expr
import Rulebook.Text.Blank

namespace Rulebook.Pattern

/-! ## 1. The cursor -/

/-- What is left to read, whether blanks are skipped, and the groups so far that remember their
matches: how many there are, and the names that some of them have. -/
structure Cursor where
  rest : List Char
  verbose : Bool := false
  groups : Nat := 0
  names : List String := []

/-- Steps of reading, which may end in a fault. -/
abbrev Reading := StateT Cursor (Except Fault)

/-- Drops blanks and comments; a comment goes from a hash to the end of its line. -/
def dropBlanks (inComment : Bool) : List Char → List Char
  | [] => []
  | c :: rest =>
    if inComment then dropBlanks (c != '\n') rest
    else if Text.isBlankChar c then dropBlanks false rest
    else if c = '#' then dropBlanks true rest
    else c :: rest

namespace Reading

/-- The next character. -/
def peek : Reading (Option Char) := do return (← get).rest.head?

/-- The next character, or a fault at the end. -/
def require (fault : Fault) : Reading Char := do
  match ← peek with
  | some c => return c
  | none => throw fault

/-- Skips one character. -/
def bump : Reading Unit := modify fun c => { c with rest := c.rest.drop 1 }

/-- Skips blanks and comments in verbose mode. -/
def skipBlanks : Reading Unit :=
  modify fun c => if c.verbose then { c with rest := dropBlanks false c.rest } else c

/-- Skips one character and what is blank after it. -/
def bumpBlanks : Reading Unit := do
  bump
  skipBlanks

/-- Skips a fixed text if it comes next. -/
def takeIf (text : String) : Reading Bool := do
  let c ← get
  match List.isPrefixOf? text.toList c.rest with
  | some rest =>
    set { c with rest := rest }
    return true
  | none => return false

/-- The number of characters left. -/
def remaining : Reading Nat := do return (← get).rest.length

/-- Skips white space in any mode. -/
def skipWhite : Reading Unit :=
  modify fun c => { c with rest := c.rest.dropWhile Text.isBlankChar }

/-- Takes characters of a class, with the blanks between them skipped. -/
def takeWhile (accepts : Char → Bool) : Nat → Reading (List Char)
  | 0 => return []
  | budget + 1 => do
    match ← peek with
    | some c =>
      if accepts c then
        bumpBlanks
        return c :: (← takeWhile accepts budget)
      else return []
    | none => return []

/-- Takes characters of a class to the end of them. -/
def takeAll (accepts : Char → Bool) : Reading (List Char) := do
  takeWhile accepts (← remaining)

/-! ## 2. Character codes -/

/-- Whether a character is a hexadecimal digit. -/
def isHex (c : Char) : Bool :=
  c.isDigit || ('a' ≤ c && c ≤ 'f') || ('A' ≤ c && c ≤ 'F')

/-- The value of a hexadecimal digit. -/
def hexValue (c : Char) : Nat :=
  if c.isDigit then c.toNat - '0'.toNat else c.toLower.toNat - 'a'.toNat + 10

/-- The character with a code, unless there is none. -/
def charOfHex (digits : List Char) : Reading Char := do
  let n := digits.foldl (fun n d => n * 16 + hexValue d) 0
  if n.isValidChar then return Char.ofNat n else throw .codeMalformed

/-- Takes a fixed number of hexadecimal digits. -/
def hexDigits : Nat → Reading (List Char)
  | 0 => return []
  | n + 1 => do
    let c ← require .escapeUnfinished
    if !isHex c then throw .codeMalformed
    bumpBlanks
    return c :: (← hexDigits n)

/-- Takes a character code after `\x`, `\u` or `\U`: as many digits as the letter asks for, or any
number of them in braces. -/
def characterCode (width : Nat) : Reading Literal := do
  bumpBlanks
  if (← require .escapeUnfinished) = '\x7b' then
    bumpBlanks
    let digits ← takeAll fun c => c != '\x7d'
    discard <| require .escapeUnfinished
    bumpBlanks
    if digits.isEmpty || !digits.all isHex then throw .codeMalformed
    return ⟨← charOfHex digits, false⟩
  else
    let digits ← hexDigits width
    return ⟨← charOfHex digits, width == 2⟩

/-! ## 3. Escapes -/

/-- Splits a text at the first occurrence of a separator. -/
def splitAt? (separator : List Char) : List Char → Option (List Char × List Char)
  | [] => none
  | c :: rest =>
    match List.isPrefixOf? separator (c :: rest) with
    | some after => some ([], after)
    | none => (splitAt? separator rest).map fun (before, after) => (c :: before, after)

/-- The query that stands between the braces of a property, and whether it asks for what lacks the
value.  A value follows `!=`, `:` or `=`. -/
def propertyQuery (text : List Char) : Bool × PropertyQuery :=
  let valued (parts : List Char × List Char) : PropertyQuery :=
    .valued (String.ofList parts.1) (String.ofList parts.2)
  match splitAt? ['!', '='] text with
  | some parts => (true, valued parts)
  | none =>
    match (splitAt? [':'] text).or (splitAt? ['='] text) with
    | some parts => (false, valued parts)
    | none => (false, .named (String.ofList text))

/-- Takes a property after `\p` or `\P`: one letter, or a name in braces. -/
def property (negated : Bool) : Reading Expr := do
  bumpBlanks
  let c ← require .escapeUnfinished
  if c = '\x7b' then
    bumpBlanks
    let text ← takeAll fun c => c != '\x7d'
    discard <| require .escapeUnfinished
    bump
    let (excludes, query) := propertyQuery text
    return .property (negated != excludes) query
  else if c = '\\' then throw .propertyUnknown
  else
    bumpBlanks
    return .property negated (.named (String.singleton c))

/-- The special word boundaries by the names in their braces. -/
def wordLook? : String → Option WordLook
  | "start" => some .start
  | "end" => some .finish
  | "start-half" => some .startHalf
  | "end-half" => some .finishHalf
  | _ => none

/-- Takes what may follow `\b`: a special boundary in braces.  Braces that open with something
else than a letter or a hyphen are a repetition and are left alone. -/
def wordBoundary : Reading WordLook := do
  if (← peek) != some '\x7b' then return .boundary
  let before ← get
  bumpBlanks
  let accepts (c : Char) : Bool := c.isAlpha || c = '-'
  if !accepts (← require .wordBoundaryMalformed) then
    set before
    return .boundary
  let name ← takeAll accepts
  if (← peek) != some '\x7d' then throw .wordBoundaryMalformed
  bump
  match wordLook? (String.ofList name) with
  | some look => return look
  | none => throw .wordBoundaryMalformed

/-- Whether an escape of the character stands for the character itself. -/
def escapesItself (c : Char) : Bool :=
  c.toNat ≤ 0x7F && !c.isAlphanum && c != '<' && c != '>'

/-- Takes an escape after its backslash. -/
def escape : Reading Expr := do
  let c ← require .escapeUnfinished
  if c.isDigit then throw .backReference
  match c with
  | 'x' => return .literal (← characterCode 2)
  | 'u' => return .literal (← characterCode 4)
  | 'U' => return .literal (← characterCode 8)
  | 'p' => property false
  | 'P' => property true
  | _ =>
    bump
    let char (code : Nat) : Expr := .literal ⟨Char.ofNat code, false⟩
    if escapesItself c then return .literal ⟨c, false⟩
    match c with
    | 'd' => return .letter false .digit
    | 'D' => return .letter true .digit
    | 's' => return .letter false .space
    | 'S' => return .letter true .space
    | 'w' => return .letter false .word
    | 'W' => return .letter true .word
    | 'a' => return char 0x07
    | 'f' => return char 0x0C
    | 't' => return char 0x09
    | 'n' => return char 0x0A
    | 'r' => return char 0x0D
    | 'v' => return char 0x0B
    | 'A' => return .anchor .textStart
    | 'z' => return .anchor .textEnd
    | 'b' => return .anchor (.word (← wordBoundary))
    | 'B' => return .anchor (.word .noBoundary)
    | '<' => return .anchor (.word .start)
    | '>' => return .anchor (.word .finish)
    | _ => throw .escapeUnknown

/-! ## 4. Classes -/

/-- A part of a class with its depth. -/
abbrev DeepSet := SetExpr × Nat

/-- The union of parts that are given last to first. -/
def unionOf : List DeepSet → DeepSet
  | [] => (.nothing, 0)
  | [item] => item
  | item :: items =>
    let members := (item :: items).reverse
    (members.foldl (fun s t => .union s t.1) .nothing,
      (members.map (·.2)).foldl max 0 + 1)

/-- The parts so far, joined to the operation that waits for its right side. -/
def combineWith (pending : Option (SetOp × DeepSet)) (items : List DeepSet) : DeepSet :=
  let right := unionOf items
  match pending with
  | none => right
  | some (op, left) => (.combine op left.1 right.1, max left.2 right.2 + 1)

/-- Takes a named class such as `[:alpha:]`, or nothing if the bracket opens something else. -/
def namedClass : Reading (Option SetExpr) := do
  let before ← get
  let giveUp : Reading (Option SetExpr) := do
    set before
    return none
  if !(← takeIf "[:") then giveUp
  else
    let negated ← takeIf "^"
    let c ← get
    let name := c.rest.takeWhile (· != ':')
    set { c with rest := c.rest.drop name.length }
    if !(← takeIf ":]") then giveUp
    else match asciiClass? (String.ofList name) with
      | some ranges => return some (.ascii negated ranges)
      | none => giveUp

/-- Takes the hyphens at the start of a class, which stand for themselves. -/
def leadingHyphens : Nat → Reading (List DeepSet)
  | 0 => return []
  | budget + 1 => do
    if (← require .classNotClosed) = '-' then
      bumpBlanks
      return (← leadingHyphens budget) ++ [(.literal ⟨'-', false⟩, 0)]
    else return []

/-- Takes the opening of a class after its bracket: a caret negates it, and hyphens and then a
closing bracket at its start stand for themselves. -/
def classOpening : Reading (Bool × List DeepSet) := do
  bumpBlanks
  let negated := (← require .classNotClosed) = '^'
  if negated then bumpBlanks
  let hyphens ← leadingHyphens ((← remaining) + 1)
  if hyphens.isEmpty && (← require .classNotClosed) = ']' then
    bumpBlanks
    discard <| require .classNotClosed
    return (negated, [(.literal ⟨']', false⟩, 0)])
  else return (negated, hyphens)

/-- Takes one member of a class: an escape, or any character. -/
def classMember : Reading Expr := do
  let c ← require .classNotClosed
  bump
  if c = '\\' then escape else return .literal ⟨c, false⟩

/-- A member of a class on its own. -/
def memberSet : Expr → Reading SetExpr
  | .literal l => return .literal l
  | .letter negated c => return .letter negated c
  | .property negated q => return .property negated q
  | _ => throw .classMember

/-- An end of a range. -/
def rangeEnd : Expr → Reading Literal
  | .literal l => return l
  | _ => throw .classRange

/-- The character that decides whether a hyphen makes a range.  In verbose mode blanks do not count
and neither does one hash, but the text of a comment does. -/
def afterHyphen : Reading (Option Char) := do
  let cursor ← get
  let rest := cursor.rest.drop 1
  if !cursor.verbose then return rest.head?
  match rest.dropWhile Text.isBlankChar with
  | '#' :: comment => return (comment.dropWhile Text.isBlankChar).head?
  | others => return others.head?

/-- Takes a member of a class or a range between two members.  A hyphen before a closing bracket
or before another hyphen makes no range. -/
def classRange : Reading SetExpr := do
  let first ← classMember
  skipBlanks
  let c ← require .classNotClosed
  let following ← afterHyphen
  if c != '-' || following = some ']' || following = some '-' then memberSet first
  else
    bumpBlanks
    discard <| require .classNotClosed
    let last ← classMember
    let low ← rangeEnd first
    let high ← rangeEnd last
    if low.char ≤ high.char then return .range low high else throw .classRange

/-- The operation that a doubled character stands for. -/
def setOp? (c : Char) : Option SetOp :=
  match c with
  | '&' => some .intersection
  | '-' => some .difference
  | '~' => some .symmetricDifference
  | _ => none

/-- Takes the rest of a class up to its closing bracket. -/
def classBody : Nat → Option (SetOp × DeepSet) → List DeepSet → Reading DeepSet
  | 0, _, _ => throw .classNotClosed
  | budget + 1, pending, items => do
    skipBlanks
    let c ← require .classNotClosed
    if c = '[' then
      match ← namedClass with
      | some named => classBody budget pending ((named, 0) :: items)
      | none =>
        let (negated, first) ← classOpening
        let (inner, depth) ← classBody budget none first
        classBody budget pending ((.nested negated inner, depth + 1) :: items)
    else if c = ']' then
      bump
      return combineWith pending items
    else
      let doubled := ((← get).rest.drop 1).head? = some c
      match if doubled then setOp? c else none with
      | some op =>
        bump
        bump
        classBody budget (some (op, combineWith pending items)) []
      | none =>
        let item ← classRange
        classBody budget pending ((item, 0) :: items)

/-- Takes a class that starts at its bracket. -/
def bracketed : Reading (Expr × Nat) := do
  let (negated, first) ← classOpening
  let (inner, depth) ← classBody ((← remaining) + 1) none first
  return (.set negated inner, depth + 1)

/-! ## 5. Repetitions -/

/-- Takes a number below `2^32`, with white space around it. -/
def count : Reading Nat := do
  skipWhite
  let digits ← takeAll Char.isDigit
  skipWhite
  let n := digits.foldl (fun n d => n * 10 + (d.toNat - '0'.toNat)) 0
  if digits.isEmpty || UInt32.size ≤ n then throw .repetitionMalformed
  return n

/-- Takes the limits of a repetition in braces: one number, one and a comma, or two in order. -/
def limits : Reading (Nat × Option Nat) := do
  bumpBlanks
  let least ← count
  let most ←
    if (← peek) = some ',' then do
      bumpBlanks
      if (← require .repetitionMalformed) = '\x7d' then pure none
      else some <$> count
    else pure (some least)
  if (← peek) != some '\x7d' then throw .repetitionMalformed
  bumpBlanks
  match most with
  | some m => if least ≤ m then return (least, most) else throw .repetitionEmpty
  | none => return (least, none)

/-- Takes the mark that makes a repetition lazy. -/
def takeLazy : Reading Bool := takeIf "?"

/-! ## 6. Groups -/

/-- Whether a character may stand in the name of a group. -/
def isNameChar (isFirst : Bool) (c : Char) : Bool :=
  if isFirst then c = '_' || CharSet.letters.contains c.toNat
  else c = '_' || c = '.' || c = '[' || c = ']' || CharSet.lettersAndNumbers.contains c.toNat

/-- Takes the name of a group and its closing bracket; no two groups share a name. -/
def groupName : Reading Unit := do
  let c ← get
  let name := c.rest.takeWhile (· != '>')
  let rest := c.rest.drop name.length
  if rest.isEmpty then throw .groupNameMalformed
  match name with
  | [] => throw .groupNameMalformed
  | first :: others =>
    if !isNameChar true first || !others.all (isNameChar false) then throw .groupNameMalformed
    if c.names.contains (String.ofList name) then throw .groupNameRepeated
    set { c with rest := rest.drop 1, names := String.ofList name :: c.names }

/-- Takes flags up to the colon or the parenthesis that ends them; a hyphen switches the flags
after it off. -/
def flagLetters : Nat → Bool → FlagChange → Reading FlagChange
  | 0, _, _ => throw .groupNotClosed
  | budget + 1, isOff, change => do
    let c ← require .groupNotClosed
    if c = ':' || c = ')' then return change
    else if c = '-' then
      if isOff then throw .flagRepeated
      bump
      let following ← require .groupNotClosed
      if following = ':' || following = ')' then throw .flagDangling
      flagLetters budget true change
    else match Flag.ofLetter? c with
      | none => throw .flagUnknown
      | some flag =>
        if change.any (·.1 = flag) then throw .flagRepeated
        bump
        flagLetters budget isOff (change ++ [(flag, !isOff)])

/-- What an opening parenthesis opens. -/
inductive Opening
  | group (number : Option Nat) (change : FlagChange)
  | switch (change : FlagChange)

/-- The number of the next group that remembers its match. -/
def nextGroup : Reading Nat := do
  let c ← get
  set { c with groups := c.groups + 1 }
  return c.groups + 1

/-- Takes the opening of a group after its parenthesis. -/
def groupOpening : Reading Opening := do
  bumpBlanks
  if (← takeIf "?=") || (← takeIf "?!") || (← takeIf "?<=") || (← takeIf "?<!") then
    throw .lookAround
  if (← takeIf "?P<") || (← takeIf "?<") then
    groupName
    return .group (some (← nextGroup)) []
  else if ← takeIf "?" then
    let change ← flagLetters ((← remaining) + 1) false []
    let ending ← require .groupNotClosed
    bump
    if ending = ')' then
      if change.isEmpty then throw .nothingToRepeat
      return .switch change
    else return .group none change
  else return .group (some (← nextGroup)) []

/-- The verbose mode after flags are switched. -/
def verboseAfter (change : FlagChange) (verbose : Bool) : Bool :=
  match change.find? (·.1 = .verbose) with
  | some (_, on) => on
  | none => verbose

/-! ## 7. Patterns -/

/-- A part of a pattern with its depth. -/
abbrev Deep := Expr × Nat

/-- The sequence of parts that are given last to first. -/
def sequenceOf : List Deep → Deep
  | [] => (.empty, 0)
  | [item] => item
  | last :: others =>
    (others.foldl (fun e p => .seq p.1 e) last.1,
      (last :: others).foldl (fun d p => max d p.2) 0 + 1)

/-- The choice between alternatives that are given last to first. -/
def choiceOf : List Deep → Deep
  | [] => (.empty, 0)
  | [branch] => branch
  | last :: others =>
    (others.foldl (fun e p => .either p.1 e) last.1,
      (last :: others).foldl (fun d p => max d p.2) 0 + 1)

/-- Replaces the last part by a repetition of it; flags and nothing at all cannot be repeated. -/
def repeatLast (items : List Deep) (least : Nat) (most : Option Nat) (isLazy : Bool) :
    Reading (List Deep) :=
  match items with
  | [] => throw .nothingToRepeat
  | (.flags _, _) :: _ => throw .nothingToRepeat
  | (e, depth) :: others => return (.repeated e least most isLazy, depth + 1) :: others

/-- Takes a repetition sign, with the mark that makes it lazy. -/
def repeatSign (items : List Deep) (least : Nat) (most : Option Nat) : Reading (List Deep) := do
  discard <| repeatLast items least most false
  bump
  repeatLast items least most (← takeLazy)

/-- Takes a part that is no group, class or repetition. -/
def primitive (c : Char) : Reading Expr := do
  bump
  match c with
  | '\\' => escape
  | '.' => return .dot
  | '^' => return .anchor .caret
  | '$' => return .anchor .dollar
  | _ => return .literal ⟨c, false⟩

/-- Takes alternatives up to a closing parenthesis or the end, which are left to the caller.
`branches` are the alternatives that are complete, `items` the parts of the current one. -/
def alternatives : Nat → List Deep → List Deep → Reading Deep
  | 0, _, _ => throw .groupNotClosed
  | budget + 1, branches, items => do
    skipBlanks
    match ← peek with
    | none => return choiceOf (sequenceOf items :: branches)
    | some ')' => return choiceOf (sequenceOf items :: branches)
    | some '|' =>
      bump
      alternatives budget (sequenceOf items :: branches) []
    | some '(' =>
      let outer := (← get).verbose
      match ← groupOpening with
      | .switch change =>
        modify fun c => { c with verbose := verboseAfter change outer }
        alternatives budget branches ((.flags change, 0) :: items)
      | .group number change =>
        modify fun c => { c with verbose := verboseAfter change outer }
        let (inner, depth) ← alternatives budget [] []
        if (← peek) != some ')' then throw .groupNotClosed
        modify fun c => { c with verbose := outer }
        bump
        alternatives budget branches ((.group number change inner, depth + 1) :: items)
    | some '[' =>
      let item ← bracketed
      alternatives budget branches (item :: items)
    | some '?' => alternatives budget branches (← repeatSign items 0 (some 1))
    | some '*' => alternatives budget branches (← repeatSign items 0 none)
    | some '+' => alternatives budget branches (← repeatSign items 1 none)
    | some '\x7b' =>
      discard <| repeatLast items 0 none false
      let (least, most) ← limits
      alternatives budget branches (← repeatLast items least most (← takeLazy))
    | some c =>
      let e ← primitive c
      alternatives budget branches ((e, 0) :: items)

end Reading

/-- The greatest depth of a pattern. -/
def depthLimit : Nat := 250

/-- Reads a pattern. -/
def Expr.read (text : String) : Except Fault Expr := do
  let chars := text.toList
  let ((e, depth), after) ← (Reading.alternatives (chars.length + 1) [] []).run { rest := chars }
  if !after.rest.isEmpty then throw .groupNotOpened
  if depthLimit < depth then throw .nestedTooDeep
  return e

end Rulebook.Pattern
