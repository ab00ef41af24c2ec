/-
Rulebook.Pattern.Expr — patterns as they are written.

The tree keeps what the meaning of a part depends on: flags that are set on the
way, groups that end their scope, classes with their set operations, and
properties by name.  What it means is settled in `Rulebook.Pattern.Meaning`.
-/
import Rulebook.Character.Property
import Rulebook.Pattern.Regex

namespace Rulebook.Pattern

/-! ## 1. Flags -/

/-- What can be switched on and off inside a pattern. -/
inductive Flag
  | ignoreCase
  | multiLine
  | dotMatchesNewline
  | swapGreed
  | unicode
  | returnLines
  | verbose
deriving DecidableEq, Repr

/-- The flag of a letter. -/
def Flag.ofLetter? : Char → Option Flag
  | 'i' => some .ignoreCase
  | 'm' => some .multiLine
  | 's' => some .dotMatchesNewline
  | 'U' => some .swapGreed
  | 'u' => some .unicode
  | 'R' => some .returnLines
  | 'x' => some .verbose
  | _ => none

/-- Flags that are switched, each on or off. -/
abbrev FlagChange := List (Flag × Bool)

/-! ## 2. Classes -/

/-- The classes with a letter of their own. -/
inductive LetterClass
  | digit
  | space
  | word
deriving DecidableEq, Repr

/-- The ASCII characters with the given code ranges, by the name between colons. -/
def asciiClass? : String → Option (List (Nat × Nat))
  | "alnum" => some [(0x30, 0x39), (0x41, 0x5A), (0x61, 0x7A)]
  | "alpha" => some [(0x41, 0x5A), (0x61, 0x7A)]
  | "ascii" => some [(0x00, 0x7F)]
  | "blank" => some [(0x09, 0x09), (0x20, 0x20)]
  | "cntrl" => some [(0x00, 0x1F), (0x7F, 0x7F)]
  | "digit" => some [(0x30, 0x39)]
  | "graph" => some [(0x21, 0x7E)]
  | "lower" => some [(0x61, 0x7A)]
  | "print" => some [(0x20, 0x7E)]
  | "punct" => some [(0x21, 0x2F), (0x3A, 0x40), (0x5B, 0x60), (0x7B, 0x7E)]
  | "space" => some [(0x09, 0x0D), (0x20, 0x20)]
  | "upper" => some [(0x41, 0x5A)]
  | "word" => some [(0x30, 0x39), (0x41, 0x5A), (0x5F, 0x5F), (0x61, 0x7A)]
  | "xdigit" => some [(0x30, 0x39), (0x41, 0x46), (0x61, 0x66)]
  | _ => none

/-- The operations between the sets of a class. -/
inductive SetOp
  | intersection
  | difference
  | symmetricDifference
deriving DecidableEq, Repr

/-- A character of a pattern; `isByte` marks those written by exactly two hexadecimal digits. -/
structure Literal where
  char : Char
  isByte : Bool := false
deriving DecidableEq, Repr

/-- What stands between the brackets of a class. -/
inductive SetExpr
  | nothing
  | literal (l : Literal)
  | range (first last : Literal)
  | ascii (negated : Bool) (ranges : List (Nat × Nat))
  | letter (negated : Bool) (c : LetterClass)
  | property (negated : Bool) (q : PropertyQuery)
  /-- A class inside a class. -/
  | nested (negated : Bool) (s : SetExpr)
  | union (s t : SetExpr)
  | combine (op : SetOp) (s t : SetExpr)
deriving DecidableEq, Repr

/-! ## 3. Patterns -/

/-- The written conditions on places. -/
inductive Anchor
  | caret
  | dollar
  | textStart
  | textEnd
  | word (look : WordLook)
deriving DecidableEq, Repr

/-- A pattern. -/
inductive Expr
  | empty
  /-- Flags that are switched for what follows. -/
  | flags (change : FlagChange)
  | literal (l : Literal)
  | dot
  | anchor (a : Anchor)
  | letter (negated : Bool) (c : LetterClass)
  | property (negated : Bool) (q : PropertyQuery)
  | set (negated : Bool) (s : SetExpr)
  | repeated (e : Expr) (least : Nat) (most : Option Nat) (isLazy : Bool)
  /-- A group, which may remember its match under a number or switch flags inside. -/
  | group (number : Option Nat) (change : FlagChange) (e : Expr)
  | seq (a b : Expr)
  | either (a b : Expr)
deriving DecidableEq, Repr

/-! ## 4. Faults -/

/-- Why a text is no pattern, or has no meaning. -/
inductive Fault
  | groupNotOpened
  | groupNotClosed
  | groupNameMalformed
  | groupNameRepeated
  | lookAround
  | flagUnknown
  | flagRepeated
  | flagDangling
  | nothingToRepeat
  | repetitionMalformed
  | repetitionEmpty
  | backReference
  | escapeUnknown
  | escapeUnfinished
  | codeMalformed
  | wordBoundaryMalformed
  | classNotClosed
  | classMember
  | classRange
  | nestedTooDeep
  | propertyUnknown
  | unicodeRequired
  | notText
  | tooBig (limit : Nat)
deriving DecidableEq, Repr

/-- The fault in words. -/
def Fault.explanation : Fault → String
  | .groupNotOpened => "unopened group"
  | .groupNotClosed => "unclosed group"
  | .groupNameMalformed => "malformed group name"
  | .groupNameRepeated => "repeated group name"
  | .lookAround => "look-around is not supported"
  | .flagUnknown => "unknown flag"
  | .flagRepeated => "repeated flag"
  | .flagDangling => "dangling flag negation"
  | .nothingToRepeat => "repetition operator missing expression"
  | .repetitionMalformed => "malformed repetition count"
  | .repetitionEmpty => "invalid repetition count range"
  | .backReference => "back-references are not supported"
  | .escapeUnknown => "unknown escape sequence"
  | .escapeUnfinished => "incomplete escape sequence"
  | .codeMalformed => "malformed character code"
  | .wordBoundaryMalformed => "malformed word boundary"
  | .classNotClosed => "unclosed character class"
  | .classMember => "escape sequence not allowed in a character class"
  | .classRange => "invalid character class range"
  | .nestedTooDeep => "nesting is too deep"
  | .propertyUnknown => "unknown Unicode property"
  | .unicodeRequired => "Unicode is switched off here"
  | .notText => "pattern can match text that is not UTF-8"
  | .tooBig _ => "too big"

/-- The text of a fault. -/
def Fault.message : Fault → String
  | .tooBig limit => "Compiled regex exceeds size limit of " ++ toString limit ++ " bytes."
  | fault => "regex parse error: " ++ fault.explanation

end Rulebook.Pattern
