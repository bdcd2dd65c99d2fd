import InlineChoice.Pattern.Flag
import InlineChoice.Unicode.CaseMapping
import InlineChoice.Unicode.Category

/-!
# Sets of characters in a pattern

A set is written in brackets, as a shorthand such as `\w`, or as a property such as
`\p{Greek}`. Which characters it has depends on the flags where it stands
(`CharSet.members?`).

If case is ignored, a set is closed under case (`closed`) before it is negated, so
that `[^x]` excludes both cases of the letter. Without the flag `unicode` a set may
hold ASCII characters only, which rules out properties and all negations.
-/

namespace InlineChoice

namespace Pattern

open Unicode

/-! ## Members -/

/-- A character as a pattern spells it. -/
structure Literal where
  char : Char
  /-- Whether it is spelt as the value of a byte, `\xFF`. -/
  isByte : Bool := false
  deriving DecidableEq, Repr

/-- Whether a character is in ASCII. -/
def isAscii (c : Char) : Bool :=
  c.toNat < 0x80

/-- The characters with the same case folding as one for which `members` holds, if
case is ignored. -/
def closed (flags : Flags) (members : Char → Bool) : Char → Bool :=
  if !flags.has .ignoreCase then members
  else if flags.has .unicode then fun c => (CaseMapping.orbit c).any members
  else fun c => members c || members c.toLower || members c.toUpper

/-- The complement of a set, if asked for. It contains characters outside ASCII, so it
is refused without the flag `unicode`. -/
def complemented? (flags : Flags) (isNegated : Bool) (members : Char → Bool) :
    Option (Char → Bool) :=
  if !isNegated then some members
  else if flags.has .unicode then some fun c => !members c
  else none

/-! ## Named classes -/

/-- The classes of ASCII characters that can be named between `[:` and `:]`. -/
def asciiClass? (name : Text) : Option (Char → Bool) :=
  match String.ofList name with
  | "alnum" => some Char.isAlphanum
  | "alpha" => some Char.isAlpha
  | "ascii" => some isAscii
  | "blank" => some fun c => c = '\t' || c = ' '
  | "cntrl" => some fun c => c.toNat < 0x20 || c.toNat = 0x7F
  | "digit" => some Char.isDigit
  | "graph" => some fun c => 0x21 ≤ c.toNat && c.toNat ≤ 0x7E
  | "lower" => some Char.isLower
  | "print" => some fun c => 0x20 ≤ c.toNat && c.toNat ≤ 0x7E
  | "punct" => some fun c => 0x21 ≤ c.toNat && c.toNat ≤ 0x7E && !c.isAlphanum
  | "space" => some fun c => 0x09 ≤ c.toNat && c.toNat ≤ 0x0D || c = ' '
  | "upper" => some Char.isUpper
  | "word" => some fun c => c.isAlphanum || c = '_'
  | "xdigit" => some fun c => (hexDigit? c).isSome
  | _ => none

/-- The classes that have a letter as their name. -/
inductive Shorthand where
  | digit
  | space
  | word
  deriving DecidableEq, Repr

/-- Whether a character may be part of a word. -/
def isWordChar (c : Char) : Bool :=
  BinaryProperty.alphabetic.contains c || BinaryProperty.joinControl.contains c
    || Category.isOneOf ["Mn", "Mc", "Me", "Nd", "Pc"] c

/-- Whether an ASCII character may be part of a word. -/
def isAsciiWordChar (c : Char) : Bool :=
  c.isAlphanum || c = '_'

/-- The characters of a shorthand. -/
def Shorthand.members (flags : Flags) : Shorthand → Char → Bool
  | .digit => if flags.has .unicode then Category.isOneOf ["Nd"] else Char.isDigit
  | .space =>
    if flags.has .unicode then Text.isBlank else fun c => Text.isBlank c && isAscii c
  | .word => if flags.has .unicode then isWordChar else isAsciiWordChar

/-! ## Sets -/

/-- How two sets make one. -/
inductive SetOperation where
  | intersection
  | difference
  | symmetricDifference
  deriving DecidableEq, Repr

/-- Whether a character is in the combination of two sets. -/
def SetOperation.holds : SetOperation → Bool → Bool → Bool
  | .intersection, l, r => l && r
  | .difference, l, r => l && !r
  | .symmetricDifference, l, r => l != r

/-- A set of characters as a pattern spells it. -/
inductive CharSet where
  | empty
  | literal (l : Literal)
  | range (first last : Literal)
  | asciiClass (members : Char → Bool) (isNegated : Bool)
  | shorthand (kind : Shorthand) (isNegated : Bool)
  | property (members : Char → Bool) (isNegated : Bool)
  | union (left right : CharSet)
  | combined (operation : SetOperation) (left right : CharSet)
  | bracket (isNegated : Bool) (body : CharSet)

namespace CharSet

/-- Whether a literal may stand in a set. -/
def admits (flags : Flags) (l : Literal) : Bool :=
  flags.has .unicode || isAscii l.char

/-- The characters of a set, if it may stand where these flags are set. -/
def members? (flags : Flags) : CharSet → Option (Char → Bool)
  | empty => some fun _ => false
  | literal l => if admits flags l then some (· = l.char) else none
  | range first last =>
    if admits flags first && admits flags last then
      some fun c => first.char ≤ c && c ≤ last.char
    else none
  | asciiClass members isNegated => complemented? flags isNegated (closed flags members)
  | shorthand kind isNegated => complemented? flags isNegated (kind.members flags)
  | property members isNegated =>
    if flags.has .unicode then complemented? flags isNegated (closed flags members) else none
  | union left right => do
    let l ← members? flags left
    let r ← members? flags right
    return fun c => l c || r c
  | combined operation left right => do
    let l ← members? flags left
    let r ← members? flags right
    return fun c => operation.holds (closed flags l c) (closed flags r c)
  | bracket isNegated body => do
    complemented? flags isNegated (closed flags (← members? flags body))

/-- The union of some sets. -/
def ofList : List CharSet → CharSet
  | [] => empty
  | set :: sets => sets.foldl union set

/-- How deep a set is nested. A union of many sets is one level. -/
def depth : CharSet → Nat
  | union (union a b) right => max (depth (union a b)) (depth right + 1)
  | union left right => max (depth left) (depth right) + 1
  | combined _ left right => max (depth left) (depth right) + 1
  | bracket _ body => depth body + 1
  | _ => 0

end CharSet

end Pattern

end InlineChoice
