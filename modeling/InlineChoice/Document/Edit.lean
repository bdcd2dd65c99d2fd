import InlineChoice.Choice.Edit
import InlineChoice.Document

/-!
# Editing a document

An edit names one line and its new content; it is computed from a document and
applied to one. Only an annotated assignment can be edited.
-/

namespace InlineChoice

/-- A new content for one line. -/
structure LineEdit where
  /-- The position of the line, counted from zero. -/
  index : Nat
  former : Text
  replacement : Text
  deriving DecidableEq, Repr

namespace LineEdit

/-- The number of the edited line, counted from one. -/
def number (edit : LineEdit) : Nat :=
  edit.index + 1

/-- Whether the edit leaves the line as it is. -/
def isNoop (edit : LineEdit) : Bool :=
  edit.former = edit.replacement

end LineEdit

namespace Document

/-- The edit that writes the value that `pick` chooses for an annotation. -/
def editLine? [PatternEngine] (doc : Document) (syn : CommentSyntax) (index : Nat)
    (pick : Choice → Option Text) : Option LineEdit := do
  let line ← doc.line? index
  let choice ← Choice.parse? (← doc.token? syn) line
  let replacement ← choice.withValue? line (← pick choice)
  pure { index, former := line, replacement }

/-- The edit that moves a line to its next candidate. -/
def toggle? [PatternEngine] (doc : Document) (syn : CommentSyntax) (index : Nat) :
    Option LineEdit :=
  doc.editLine? syn index Choice.nextValue?

/-- The edit that writes the trimmed `value` on a line. -/
def set? [PatternEngine] (doc : Document) (syn : CommentSyntax) (index : Nat) (value : Text) :
    Option LineEdit :=
  doc.editLine? syn index fun _ => some value.trim

/-- The text of a document after an edit; the document need not be the one from
which the edit was computed. -/
def edited? (doc : Document) (edit : LineEdit) : Option Text :=
  doc.replaceLine? edit.index edit.replacement

end Document

end InlineChoice
