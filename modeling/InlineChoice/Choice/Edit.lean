import InlineChoice.Choice

/-!
# Editing an annotated line

An edit gives the assignment of a line another value and keeps the target, the
marker and the text after the marker. The new value is surrounded by single
spaces, whatever white space stood there before.

* `Choice.withValue?` writes a given value.
* `Line.advance` moves to the next candidate, and wraps around at the last one.
* `Line.setValue` writes a value without its outer white space.
-/

namespace InlineChoice

/-! ## The next candidate -/

/--
The candidate after the first occurrence of `current`. The last candidate, and
everything that is no candidate, is followed by the first candidate.
-/
def nextValue? (candidates : List Text) (current : Option Text) : Option Text :=
  match current.bind candidates.idxOf? with
  | some i => candidates[i + 1]? <|> candidates.head?
  | none => candidates.head?

namespace Choice

/-- The value that advancing moves to. -/
def nextValue? (a : Choice) : Option Text :=
  InlineChoice.nextValue? a.candidates a.value?

/-! ## Writing a value -/

/--
A line with the target and the marker of an annotation, `value` between them,
and whatever `line` holds after the byte offset where the marker ends. There is
nothing to write where the annotation has no assignment.
-/
def withValue? (a : Choice) (line value : Text) : Option Text := do
  let assignment ← a.assignment
  let tail := (line.dropBytes? a.markerRange.stop).getD []
  pure (assignment.target ++ [' '] ++ value ++ [' '] ++ a.marker ++ tail)

end Choice

/-! ## Lines -/

namespace Line

variable [PatternEngine]

/-- The line with its next candidate, if it has an annotated assignment. -/
def advance? (token : Text) (line : Text) : Option Text := do
  let a ← Choice.parseWith? token line
  a.withValue? line (← a.nextValue?)

/-- The line with the trimmed `value`, if it has an annotated assignment. -/
def setValue? (token : Text) (value line : Text) : Option Text := do
  let a ← Choice.parseWith? token line
  a.withValue? line value.trim

/-- The line with its next candidate; a line without one is kept. -/
def advance (token line : Text) : Text :=
  (advance? token line).getD line

/-- The line with the trimmed `value`; a line that has none is kept. -/
def setValue (token value line : Text) : Text :=
  (setValue? token value line).getD line

end Line

end InlineChoice
