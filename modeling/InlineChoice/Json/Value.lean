import InlineChoice.Text

/-!
# JSON values

The values that are written, and their text: two spaces for each level, one item
a line, and nothing between the brackets of an empty array or object. A string is
written in double quotes; a quote, a backslash and the control characters below
the space are escaped, and everything else stands for itself.
-/

namespace InlineChoice

/-- A JSON value; a number is a natural number, and an object lists its fields in
the order in which they are written. -/
inductive Json where
  | null
  | bool (value : Bool)
  | number (value : Nat)
  | string (value : Text)
  | array (items : List Json)
  | object (fields : List (Text × Json))

namespace Json

/-! ## Strings -/

/-- The two lower-case hexadecimal digits of a code point below 256. -/
def hexPair (n : Nat) : Text :=
  [Nat.digitChar (n / 16), Nat.digitChar (n % 16)]

/-- A character as it stands in a string. -/
def escape (c : Char) : Text :=
  if c = '"' then ['\\', '"']
  else if c = '\\' then ['\\', '\\']
  else if c = '\x08' then ['\\', 'b']
  else if c = '\x0C' then ['\\', 'f']
  else if c = '\n' then ['\\', 'n']
  else if c = '\r' then ['\\', 'r']
  else if c = '\t' then ['\\', 't']
  else if c.toNat < 0x20 then ['\\', 'u', '0', '0'] ++ hexPair c.toNat
  else [c]

/-- A string in quotes. -/
def quote (t : Text) : Text :=
  ['"'] ++ t.flatMap escape ++ ['"']

/-! ## Layout -/

/-- A new line with the indentation of a level. -/
def newline (level : Nat) : Text :=
  '\n' :: List.replicate (2 * level) ' '

/-- Items between brackets, one a line, a level deeper than the brackets. -/
def block (left right : Char) (level : Nat) (items : List Text) : Text :=
  if items = [] then [left, right]
  else
    [left] ++ newline (level + 1) ++ Text.join (',' :: newline (level + 1)) items
      ++ newline level ++ [right]

mutual

/-- The text of a value whose brackets stand on a level. -/
def render (level : Nat) : Json → Text
  | null => "null".toList
  | bool true => "true".toList
  | bool false => "false".toList
  | number n => Text.ofNat n
  | string t => quote t
  | array items => block '[' ']' level (renderItems level items)
  | object fields => block '\x7b' '\x7d' level (renderFields level fields)

/-- The texts of the items of an array. -/
def renderItems (level : Nat) : List Json → List Text
  | [] => []
  | item :: items => render (level + 1) item :: renderItems level items

/-- The texts of the fields of an object. -/
def renderFields (level : Nat) : List (Text × Json) → List Text
  | [] => []
  | (name, value) :: fields =>
    (quote name ++ [':', ' '] ++ render (level + 1) value) :: renderFields level fields

end

/-- The text of a value. -/
def pretty (value : Json) : Text :=
  render 0 value

end Json

end InlineChoice
