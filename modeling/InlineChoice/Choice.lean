import InlineChoice.Marker

/-!
# Annotations

An annotated line is an assignment followed by a marker:

    <target> <value> <marker> <tail>

The target runs through the first run of `=` signs, the value is what stands
between the target and the marker without the white space around it, and the
marker declares the candidates for the value. A marker with no `=` sign in
front of it annotates no assignment.

`Choice.parse?` reads the annotation of a line. Nothing is remembered
between lines: an annotation is a function of the token and the text.
-/

namespace InlineChoice

/-- A range of byte offsets, without its end. -/
structure ByteRange where
  start : Nat
  stop : Nat
  deriving DecidableEq, Repr

/-- The assignment in front of a marker. -/
structure Assignment where
  /-- The text from the start of the line through the `=` signs. -/
  target : Text
  /-- The text between the target and the marker, trimmed; it may be empty. -/
  value : Text
  /-- The byte offset of the value in the line. -/
  valueStart : Nat
  deriving DecidableEq, Repr

namespace Assignment

/-- The byte range of the value in the line. -/
def valueRange (a : Assignment) : ByteRange :=
  ⟨a.valueStart, a.valueStart + a.value.byteSize⟩

/-- The assignment in the text in front of a marker, if it has an `=` sign. -/
def ofHead? (head : Text) : Option Assignment :=
  let name := head.takeWhile (· ≠ '=')
  let fromEquals := head.dropWhile (· ≠ '=')
  if fromEquals = [] then none
  else
    let target : Text := name ++ fromEquals.takeWhile (· = '=')
    let rest : Text := fromEquals.dropWhile (· = '=')
    let gap : Text := rest.takeWhile Text.isBlank
    some { target, value := rest.trim, valueStart := target.byteSize + gap.byteSize }

end Assignment

/-- The annotation of a line. -/
structure Choice where
  token : CommentToken
  assignment : Option Assignment
  candidates : List Text
  /-- The text of the marker, from the comment token to the end of its list. -/
  marker : Text
  /-- The byte offset of the marker in the line. -/
  markerStart : Nat

namespace Choice

/-! ## Reading -/

/-- The annotation of a line, for the comment token of the line's language. A
marker that declares no candidate annotates nothing. -/
def parse? (token : CommentToken) (line : Text) : Option Choice := do
  let (head, marker) ← Marker.find? token line
  if marker.candidates = [] then none
  else some {
    token
    assignment := Assignment.ofHead? head
    candidates := marker.candidates
    marker := marker.span
    markerStart := head.byteSize }

/-- The annotation of a line, for a token given as text. -/
def parseWith? [PatternEngine] (token : Text) (line : Text) : Option Choice := do
  parse? (← CommentToken.ofText? token) line

/-! ## Parts -/

/-- The byte range of the marker in the line. -/
def markerRange (a : Choice) : ByteRange :=
  ⟨a.markerStart, a.markerStart + a.marker.byteSize⟩

/-- The assigned value, if there is an assignment. -/
def value? (a : Choice) : Option Text :=
  a.assignment.map (·.value)

/-- The target without its `=` signs, trimmed; a blank one is no name. -/
def name? (a : Choice) : Option Text := do
  let assignment ← a.assignment
  let name := Text.trim (assignment.target.dropEndWhile (· = '='))
  if name = [] then none else some name

/-- Whether a text is one of the candidates. -/
def isCandidate (a : Choice) (value : Text) : Bool :=
  a.candidates.contains value

/-- The first position of the assigned value among the candidates. -/
def position? (a : Choice) : Option Nat := do
  a.candidates.idxOf? (← a.value?)

end Choice

end InlineChoice
