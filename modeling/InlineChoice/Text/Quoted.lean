import InlineChoice.Text
import InlineChoice.Unicode.BinaryProperty
import InlineChoice.Unicode.Category

/-!
# Quoted text

A text in double quotes that can be read on any terminal. Quotes, backslashes and the
usual control characters are written with a backslash, and a character that cannot be
seen, or that changes the one in front of it, is written by its number.
-/

namespace InlineChoice

namespace Text

/-- Whether a character shows as a sign of its own. -/
def isVisible (c : Char) : Bool :=
  c = ' ' ||
    !Unicode.Category.isOneOf ["Cc", "Cf", "Co", "Cn", "Zl", "Zp", "Zs"] c
      && !Unicode.BinaryProperty.graphemeExtend.contains c

/-- A character as it stands between quotes. -/
def escapeQuoted (c : Char) : Text :=
  match c with
  | '\x00' => ['\\', '0']
  | '\t' => ['\\', 't']
  | '\r' => ['\\', 'r']
  | '\n' => ['\\', 'n']
  | '"' => ['\\', '"']
  | '\'' => ['\\', '\'']
  | '\\' => ['\\', '\\']
  | c =>
    if isVisible c then [c]
    else ['\\', 'u', '\x7b'] ++ Nat.toDigits 16 c.toNat ++ ['\x7d']

/-- A text in double quotes. -/
def quoted (t : Text) : Text :=
  ['"'] ++ t.flatMap escapeQuoted ++ ['"']

end Text

end InlineChoice
