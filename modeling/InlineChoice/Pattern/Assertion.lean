import InlineChoice.Pattern.CharSet

/-!
# Assertions

An assertion matches no character. It holds or does not hold at a place of the
text, and what it says depends on the characters on both sides only; at the ends of
the text there is none.
-/

namespace InlineChoice

namespace Pattern

/-- A condition on a place of the text. -/
inductive Assertion where
  | lineStart
  | lineEnd
  | textStart
  | textEnd
  | wordBoundary
  | noWordBoundary
  | wordStart
  | wordEnd
  /-- No word in front. -/
  | wordStartHalf
  /-- No word behind. -/
  | wordEndHalf
  deriving DecidableEq, Repr

namespace Assertion

/-- The assertions with names, `\b{name}`. -/
def named? (name : Text) : Option Assertion :=
  match String.ofList name with
  | "start" => some .wordStart
  | "end" => some .wordEnd
  | "start-half" => some .wordStartHalf
  | "end-half" => some .wordEndHalf
  | _ => none

/-- Whether a line starts between two characters. With `returns`, a carriage return and
a line feed end a line together. -/
def isLineStart (returns : Bool) (before after : Option Char) : Bool :=
  before = none || before = some '\n'
    || returns && before = some '\r' && after != some '\n'

/-- Whether a line ends between two characters. -/
def isLineEnd (returns : Bool) (before after : Option Char) : Bool :=
  after = none
    || after = some '\n' && !(returns && before = some '\r')
    || returns && after = some '\r'

/-- Whether an assertion holds between two characters. -/
def holds (flags : Flags) (assertion : Assertion) (before after : Option Char) : Bool :=
  let isWord := if flags.has .unicode then isWordChar else isAsciiWordChar
  let wordBefore := before.any isWord
  let wordAfter := after.any isWord
  match assertion with
  | lineStart =>
    if flags.has .multiLine then isLineStart (flags.has .returns) before after
    else before = none
  | lineEnd =>
    if flags.has .multiLine then isLineEnd (flags.has .returns) before after
    else after = none
  | textStart => before = none
  | textEnd => after = none
  | wordBoundary => wordBefore != wordAfter
  | noWordBoundary => wordBefore == wordAfter
  | wordStart => !wordBefore && wordAfter
  | wordEnd => wordBefore && !wordAfter
  | wordStartHalf => !wordBefore
  | wordEndHalf => !wordAfter

end Assertion

end Pattern

end InlineChoice
