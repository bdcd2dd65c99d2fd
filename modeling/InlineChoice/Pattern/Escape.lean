import InlineChoice.Pattern.Assertion
import InlineChoice.Unicode.Property

/-!
# Escapes

What a backslash begins: a character, a class or an assertion. Escapes without a
meaning are refused, references to groups among them, so that a pattern always means
what it seems to mean.

In a verbose pattern, blanks and comments may stand between the parts of an escape.
A comment runs from `#` to the end of its line.
-/

namespace InlineChoice

namespace Pattern

open Unicode

/-! ## Blanks and comments -/

/-- A text without the blanks and comments at its front, which may begin inside a
comment. -/
def skipIgnored (inComment : Bool) : Text → Text
  | [] => []
  | c :: rest =>
    if inComment then skipIgnored (c ≠ '\n') rest
    else if Text.isBlank c then skipIgnored false rest
    else if c = '#' then skipIgnored true rest
    else c :: rest

/-- A text without what a pattern ignores at its front. -/
def skip (verbose : Bool) (t : Text) : Text :=
  if verbose then skipIgnored false t else t

/-- The characters up to a closing brace, without what is ignored, and the text
behind it. -/
def readBracedFrom? (verbose inComment : Bool) : Text → Option (Text × Text)
  | [] => none
  | c :: rest =>
    if inComment then readBracedFrom? verbose (c ≠ '\n') rest
    else if verbose && Text.isBlank c then readBracedFrom? verbose false rest
    else if verbose && c = '#' then readBracedFrom? verbose true rest
    else if c = '}' then some ([], rest)
    else (readBracedFrom? verbose false rest).map fun (content, rest) => (c :: content, rest)

/-- The content of braces whose opening brace has been read. -/
def readBraced? (verbose : Bool) (t : Text) : Option (Text × Text) :=
  readBracedFrom? verbose false t

/-- The two sides of the first occurrence of a separator. -/
def splitAtFirst? (separator : Text) : Text → Option (Text × Text)
  | [] => none
  | c :: rest =>
    if separator.isPrefixOf (c :: rest) then some ([], (c :: rest).drop separator.length)
    else (splitAtFirst? separator rest).map fun (left, right) => (c :: left, right)

/-! ## Numbers of characters -/

/-- The character with a number, unless the number is a surrogate or too large. -/
def charOfNumber? (n : Nat) : Option Char :=
  if n.isValidChar then some (Char.ofNat n) else none

/-- Reads hexadecimal digits, as many as asked for. -/
def readDigits? (verbose : Bool) : Nat → Text → Option (Text × Text)
  | 0, t => some ([], t)
  | count + 1, t =>
    match skip verbose t with
    | [] => none
    | c :: rest =>
      if (hexDigit? c).isSome then
        (readDigits? verbose count rest).map fun (digits, rest) => (c :: digits, rest)
      else none

/-- Reads the number of a character, in braces or with a fixed count of digits. Two
digits spell a byte. -/
def readNumber? (verbose : Bool) (count : Nat) (t : Text) : Option (Literal × Text) :=
  match skip verbose t with
  | '{' :: rest => do
    let (digits, rest) ← readBraced? verbose rest
    if digits = [] || digits.any (fun c => (hexDigit? c).isNone) then none
    else return ({ char := ← charOfNumber? (hexValue digits) }, rest)
  | t => do
    let (digits, rest) ← readDigits? verbose count t
    return ({ char := ← charOfNumber? (hexValue digits), isByte := count = 2 }, rest)

/-! ## Properties -/

/-- The characters of a property as it stands in braces: a name, or a name and a value
with one of three signs between them. -/
def propertyOf? (content : Text) : Option (Char → Bool) :=
  match splitAtFirst? ['!', '='] content <|> splitAtFirst? [':'] content
      <|> splitAtFirst? ['='] content with
  | some (name, value) => Property.valued? name value
  | none => Property.named? content

/-- Reads the name of a property, which is one character or stands in braces. -/
def readProperty? (verbose : Bool) (t : Text) : Option ((Char → Bool) × Text) :=
  match skip verbose t with
  | [] => none
  | '{' :: rest => do
    let (content, rest) ← readBraced? verbose rest
    return (← propertyOf? content, rest)
  | '\\' :: _ => none
  | c :: rest => do return (← Property.named? [c], rest)

/-! ## Word boundaries -/

/-- Whether a character may stand in the name of an assertion. -/
def isAssertionNameChar (c : Char) : Bool :=
  c.isAlpha || c = '-'

/-- Reads what follows `\b`. A brace opens the name of an assertion or, if no name
follows it, a repetition, which is left. -/
def readBoundary? (verbose : Bool) (t : Text) : Option (Assertion × Text) :=
  match t with
  | '{' :: rest =>
    match skip verbose rest with
    | [] => none
    | c :: _ =>
      if isAssertionNameChar c then do
        let (name, rest) ← readBraced? verbose rest
        return (← Assertion.named? name, rest)
      else some (.wordBoundary, t)
  | _ => some (.wordBoundary, t)

/-! ## Escapes -/

/-- What a backslash and the characters behind it mean. -/
inductive Escape where
  | literal (l : Literal)
  | set (set : CharSet)
  | assertion (assertion : Assertion)

namespace Escape

/-- The classes that a letter stands for. -/
def shorthand? : Char → Option CharSet
  | 'd' => some (.shorthand .digit false)
  | 'D' => some (.shorthand .digit true)
  | 's' => some (.shorthand .space false)
  | 'S' => some (.shorthand .space true)
  | 'w' => some (.shorthand .word false)
  | 'W' => some (.shorthand .word true)
  | _ => none

/-- The control characters that a letter stands for. -/
def control? : Char → Option Char
  | 'a' => some '\x07'
  | 'f' => some '\x0C'
  | 't' => some '\t'
  | 'n' => some '\n'
  | 'r' => some '\r'
  | 'v' => some '\x0B'
  | _ => none

/-- The assertions that one character stands for. -/
def assertion? : Char → Option Assertion
  | 'A' => some .textStart
  | 'z' => some .textEnd
  | 'B' => some .noWordBoundary
  | '<' => some .wordStart
  | '>' => some .wordEnd
  | _ => none

/-- The meaning of one character behind a backslash. A character of ASCII that is
neither a letter nor a digit stands for itself. -/
def ofChar? (c : Char) : Option Escape :=
  match shorthand? c, control? c, assertion? c with
  | some s, _, _ => some (set s)
  | _, some char, _ => some (literal { char })
  | _, _, some a => some (assertion a)
  | _, _, _ => if isAscii c && !c.isAlphanum then some (literal { char := c }) else none

/-- Reads what follows a backslash. -/
def read? (verbose : Bool) : Text → Option (Escape × Text)
  | [] => none
  | 'x' :: rest => (readNumber? verbose 2 rest).map fun (l, rest) => (literal l, rest)
  | 'u' :: rest => (readNumber? verbose 4 rest).map fun (l, rest) => (literal l, rest)
  | 'U' :: rest => (readNumber? verbose 8 rest).map fun (l, rest) => (literal l, rest)
  | 'p' :: rest =>
    (readProperty? verbose rest).map fun (members, rest) => (set (.property members false), rest)
  | 'P' :: rest =>
    (readProperty? verbose rest).map fun (members, rest) => (set (.property members true), rest)
  | 'b' :: rest => (readBoundary? verbose rest).map fun (a, rest) => (assertion a, rest)
  | c :: rest => (ofChar? c).map fun escape => (escape, rest)

end Escape

end Pattern

end InlineChoice
