import InlineChoice.Choice.State
import InlineChoice.Terminal

/-!
# Glyphs

The sign in front of an annotation in a listing: a box for two candidates, and
for more the circled number of the value's position, as far as there are circled
numbers. An annotation without a visible state has no glyph.

The signs and their styles stand in a table (`Glyph.registry`), and a listing looks
them up there (`Glyph.sign?`).
-/

namespace InlineChoice

/-- The number of circled numbers, ① to ⑳. -/
def circledCount : Nat := 20

/-- The glyphs of annotations. -/
inductive Glyph where
  | checked
  | unchecked
  /-- The circled number of a carousel position, counted from zero. -/
  | ordinal (position : Fin circledCount)
  deriving DecidableEq, Repr

namespace Glyph

/-- The glyph that shows the state of an annotation. -/
def ofChoice? (a : Choice) : Option Glyph :=
  match a.boxState? with
  | some .checked => some .checked
  | some .unchecked => some .unchecked
  | none => do
    let i ← a.carouselIndex?
    if h : i < circledCount then some (.ordinal ⟨i, h⟩) else none

/-- The circled numbers, in order. -/
def circledNumbers : List Char :=
  ['①', '②', '③', '④', '⑤', '⑥', '⑦', '⑧', '⑨', '⑩', '⑪', '⑫', '⑬', '⑭', '⑮', '⑯', '⑰', '⑱',
    '⑲', '⑳']

/-- The glyphs that there are, each with its sign and the style of the sign. -/
def registry : List (Glyph × Text × Terminal.Style) :=
  (.checked, ['☑'], ⟨some .bold, some .green⟩) ::
    (.unchecked, ['☐'], ⟨some .bold, some .brightBlack⟩) ::
    (List.finRange circledCount).zipWith
      (fun i sign => (.ordinal i, [sign], ⟨some .bold, some .yellow⟩)) circledNumbers

/-- The sign that shows the state of an annotation, with its style. -/
def sign? (a : Choice) : Option (Text × Terminal.Style) := do
  registry.lookup (← ofChoice? a)

end Glyph

end InlineChoice
