import InlineChoice.Text

/-!
# Terminal text

A painted text is wrapped in the escape sequences of its style, which is a
weight and a foreground colour. Painting is the identity on plain terminals, so
every command writes the same characters with and without colour.
-/

namespace InlineChoice

namespace Terminal

/-- The foreground colours in use. -/
inductive Colour where
  | red
  | green
  | yellow
  | blue
  | cyan
  | brightBlack
  deriving DecidableEq, Repr

/-- The code that selects a colour. -/
def Colour.code : Colour → Text
  | red => "31".toList
  | green => "32".toList
  | yellow => "33".toList
  | blue => "34".toList
  | cyan => "36".toList
  | brightBlack => "90".toList

/-- The weights in use. -/
inductive Weight where
  | bold
  | dimmed
  deriving DecidableEq, Repr

/-- The code that selects a weight. -/
def Weight.code : Weight → Text
  | bold => "1".toList
  | dimmed => "2".toList

/-- How a text is painted. -/
structure Style where
  weight : Option Weight
  colour : Option Colour
  deriving DecidableEq, Repr

/-- Paint in a colour. -/
def Style.coloured (colour : Colour) : Style := ⟨none, some colour⟩

/-- Paint in bold. -/
def Style.bold : Style := ⟨some .bold, none⟩

/-- Paint dimmed. -/
def Style.dimmed : Style := ⟨some .dimmed, none⟩

/-- The same style in bold. -/
def Style.emboldened (style : Style) : Style := { style with weight := some .bold }

/-- The codes of a style; the weight stands first. -/
def Style.codes (style : Style) : List Text :=
  (style.weight.map Weight.code).toList ++ (style.colour.map Colour.code).toList

/-- The escape sequence with the given codes. -/
def escape (codes : List Text) : Text :=
  ['\x1b', '['] ++ Text.join [';'] codes ++ ['m']

/-- The escape sequence that ends every style. -/
def reset : Text := escape [['0']]

/-- Starts the style again after every reset that a text already holds; `depth`
counts the characters of such a reset that are still to come. -/
def restart (start : Text) : (depth : Nat) → Text → Text
  | _, [] => []
  | 0, c :: rest =>
    if reset.isPrefixOf (c :: rest) then c :: restart start (reset.length - 1) rest
    else c :: restart start 0 rest
  | 1, c :: rest => c :: (start ++ restart start 0 rest)
  | depth + 2, c :: rest => c :: restart start (depth + 1) rest

/-- A text in a style, on a terminal that shows colours or does not. -/
def paint (colours : Bool) (style : Style) (t : Text) : Text :=
  if colours && style.codes ≠ [] then
    escape style.codes ++ restart (escape style.codes) 0 t ++ reset
  else t

/-- The widest padding that can be written. A command that asks for a wider one breaks
off. -/
def widestPadding : Nat := 65535

/-- A text with spaces in front of it, up to a width of at most `widestPadding`. -/
def padStart (width : Nat) (t : Text) : Text :=
  List.replicate (width - t.length) ' ' ++ t

end Terminal

end InlineChoice
