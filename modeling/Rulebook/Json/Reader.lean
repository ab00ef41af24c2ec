/-
Rulebook.Json.Reader — reading JSON text into a tree.

The grammar is the strict one: no comments, no trailing commas, no leading
zeros, no bare control characters in strings.  Numbers are checked and then
forgotten, since nothing here is configured by a number.  A string may be
escaped into a text that does not exist, by half of a surrogate pair; the tree
keeps that as an absent text, so that it matters only where the text is used.

Reading recurses on a budget of characters: every value takes at least one.
-/

namespace Rulebook.Json

/-- A JSON value. -/
inductive Tree
  | null
  | bool (b : Bool)
  | number
  | string (text : Option String)
  | array (items : List Tree)
  | object (members : List (Option String × Tree))
deriving Repr

/-! ## 1. Blanks and literals -/

/-- The four blank characters of JSON. -/
def isBlankChar (c : Char) : Bool := c = ' ' || c = '\n' || c = '\t' || c = '\r'

/-- Drops blanks. -/
def skipBlanks (cs : List Char) : List Char := cs.dropWhile isBlankChar

/-- Takes a fixed text. -/
def literal (text : String) (cs : List Char) : Option (List Char) :=
  List.isPrefixOf? text.toList cs

/-! ## 2. Numbers -/

/-- Takes one or more digits. -/
def digits (cs : List Char) : Option (List Char) :=
  match cs with
  | c :: rest => if c.isDigit then some (rest.dropWhile Char.isDigit) else none
  | [] => none

/-- Takes the whole part of a number; a zero stands alone. -/
def wholePart : List Char → Option (List Char)
  | '0' :: rest => if (rest.head?.map Char.isDigit).getD false then none else some rest
  | cs => digits cs

/-- Takes a fraction, if there is one. -/
def fractionPart : List Char → Option (List Char)
  | '.' :: rest => digits rest
  | cs => some cs

/-- Takes an exponent, if there is one. -/
def exponentPart : List Char → Option (List Char)
  | c :: rest =>
    if c = 'e' || c = 'E' then
      match rest with
      | '+' :: more => digits more
      | '-' :: more => digits more
      | more => digits more
    else some (c :: rest)
  | [] => some []

/-- Takes a number. -/
def number (cs : List Char) : Option (List Char) := do
  let unsigned := match cs with
    | '-' :: rest => rest
    | _ => cs
  exponentPart (← fractionPart (← wholePart unsigned))

/-! ## 3. Strings -/

/-- The value of a hexadecimal digit. -/
def hexValue? (c : Char) : Option Nat :=
  if c.isDigit then some (c.toNat - '0'.toNat)
  else if 'a' ≤ c ∧ c ≤ 'f' then some (c.toNat - 'a'.toNat + 10)
  else if 'A' ≤ c ∧ c ≤ 'F' then some (c.toNat - 'A'.toNat + 10)
  else none

/-- What an escape of four hexadecimal digits, or a plain character, adds to a string. -/
inductive Piece
  | char (c : Char)
  /-- A unit of sixteen bits, which may be half of a pair. -/
  | unit (n : Nat)
deriving Repr

/-- Takes the pieces of a string up to its closing quote. -/
def pieces : List Char → Option (List Piece × List Char)
  | [] => none
  | '"' :: rest => some ([], rest)
  | '\\' :: 'u' :: a :: b :: c :: d :: rest => do
    let high := (← hexValue? a) * 16 + (← hexValue? b)
    let low := (← hexValue? c) * 16 + (← hexValue? d)
    let (ps, rest) ← pieces rest
    return (.unit (high * 256 + low) :: ps, rest)
  | '\\' :: c :: rest => do
    let plain ← match c with
      | '"' => some '"'
      | '\\' => some '\\'
      | '/' => some '/'
      | 'b' => some '\x08'
      | 'f' => some '\x0c'
      | 'n' => some '\n'
      | 'r' => some '\r'
      | 't' => some '\t'
      | _ => none
    let (ps, rest) ← pieces rest
    return (.char plain :: ps, rest)
  | c :: rest =>
    if c.toNat < 32 then none
    else do
      let (ps, rest) ← pieces rest
      return (.char c :: ps, rest)

/-- The text of pieces, unless a half of a surrogate pair stands alone. -/
def textOf : List Piece → Option (List Char)
  | [] => some []
  | .char c :: ps => (textOf ps).map (c :: ·)
  | .unit n :: ps =>
    if 0xDC00 ≤ n && n < 0xE000 then none
    else if 0xD800 ≤ n && n < 0xDC00 then
      match ps with
      | .unit m :: ps =>
        if 0xDC00 ≤ m && m < 0xE000 then
          (textOf ps).map (Char.ofNat (0x10000 + (n - 0xD800) * 1024 + (m - 0xDC00)) :: ·)
        else none
      | _ => none
    else (textOf ps).map (Char.ofNat n :: ·)

/-- Takes a string after its opening quote. -/
def stringBody (cs : List Char) : Option (Option String × List Char) := do
  let (ps, rest) ← pieces cs
  return ((textOf ps).map String.ofList, rest)

/-! ## 4. Values -/

mutual

/-- Takes a value. -/
def value : Nat → List Char → Option (Tree × List Char)
  | 0, _ => none
  | budget + 1, cs =>
    match skipBlanks cs with
    | 'n' :: rest => (literal "ull" rest).map (Tree.null, ·)
    | 't' :: rest => (literal "rue" rest).map (Tree.bool true, ·)
    | 'f' :: rest => (literal "alse" rest).map (Tree.bool false, ·)
    | '"' :: rest => (stringBody rest).map fun (s, rest) => (.string s, rest)
    | '[' :: rest =>
      match skipBlanks rest with
      | ']' :: rest => some (.array [], rest)
      | rest => (elements budget rest).map fun (items, rest) => (.array items, rest)
    | '\x7b' :: rest =>
      match skipBlanks rest with
      | '\x7d' :: rest => some (.object [], rest)
      | rest => (members budget rest).map fun (ms, rest) => (.object ms, rest)
    | cs => (number cs).map (Tree.number, ·)

/-- Takes the elements of an array and its closing bracket. -/
def elements : Nat → List Char → Option (List Tree × List Char)
  | 0, _ => none
  | budget + 1, cs => do
    let (item, rest) ← value budget cs
    match skipBlanks rest with
    | ',' :: rest =>
      let (items, rest) ← elements budget rest
      return (item :: items, rest)
    | ']' :: rest => return ([item], rest)
    | _ => none

/-- Takes the members of an object and its closing brace. -/
def members : Nat → List Char → Option (List (Option String × Tree) × List Char)
  | 0, _ => none
  | budget + 1, cs =>
    match skipBlanks cs with
    | '"' :: rest => do
      let (key, rest) ← stringBody rest
      match skipBlanks rest with
      | ':' :: rest =>
        let (item, rest) ← value budget rest
        match skipBlanks rest with
        | ',' :: rest =>
          let (ms, rest) ← members budget rest
          return ((key, item) :: ms, rest)
        | '\x7d' :: rest => return ([(key, item)], rest)
        | _ => none
      | _ => none
    | _ => none

end

/-- The tree of a JSON text, which may have blanks around it and nothing else. -/
def read (text : String) : Option Tree := do
  let cs := text.toList
  let (tree, rest) ← value (2 * cs.length + 1) cs
  if (skipBlanks rest).isEmpty then some tree else none

end Rulebook.Json
