import InlineChoice.Choice.Validity
import InlineChoice.Document

/-!
# Issues

What a check of files can find: a value that is not among its candidates, which
is a warning, and a file that cannot be read, which is an error. An issue carries
everything that a report shows.

Issues are ordered by file, line, column and rule, so that a report does not
depend on the order in which files were checked. A file that cannot be read comes
before everything found in it.
-/

namespace InlineChoice

/-- How serious an issue is. -/
inductive Severity where
  | error
  | warning
  deriving DecidableEq, Repr

/-- The name of a severity in a report. -/
def Severity.name : Severity → Text
  | error => "error".toList
  | warning => "warning".toList

/-- The rules that an issue can break. -/
inductive Rule where
  | invalidValue
  | readError
  deriving DecidableEq, Repr

/-- The name of a rule in a report. -/
def Rule.name : Rule → Text
  | invalidValue => "invalid-value".toList
  | readError => "read-error".toList

/-- The place of a rule in the order of issues. -/
def Rule.rank : Rule → Nat
  | invalidValue => 0
  | readError => 1

/-- A place in a file, with the line that holds it. Lines and columns are counted
from one, columns in characters. -/
structure SourcePlace where
  file : Text
  line : Nat
  column : Nat
  source : Text
  deriving DecidableEq, Repr

/-- Something found in a check. -/
inductive Issue where
  /-- A value of `extent` characters is not among its candidates. -/
  | invalidValue (place : SourcePlace) (extent : Nat) (message : Text)
  /-- A file cannot be read. -/
  | readError (file message : Text)
  deriving DecidableEq, Repr

namespace Issue

/-! ## Parts -/

def severity : Issue → Severity
  | invalidValue .. => .warning
  | readError .. => .error

def rule : Issue → Rule
  | invalidValue .. => .invalidValue
  | readError .. => .readError

def message : Issue → Text
  | invalidValue _ _ message => message
  | readError _ message => message

def file : Issue → Text
  | invalidValue place _ _ => place.file
  | readError file _ => file

/-- The place of an issue; a file that cannot be read has none. -/
def place? : Issue → Option SourcePlace
  | invalidValue place _ _ => some place
  | readError .. => none

/-- The number of carets under the place of an issue; there is at least one. -/
def caretCount : Issue → Nat
  | invalidValue _ extent _ => max extent 1
  | readError .. => 1

/-! ## Order -/

/-- The line, the column and the rule by which issues of one file are ordered. -/
def rank (issue : Issue) : List Nat :=
  let (line, column) := issue.place?.elim (0, 0) fun p => (p.line, p.column)
  [line, column, issue.rule.rank]

/-- The order of issues. -/
def order (a b : Issue) : Ordering :=
  (compare a.file b.file).then (compare a.rank b.rank)

/-- Issues in order; issues that are equal in the order keep their places. -/
def sort (issues : List Issue) : List Issue :=
  issues.mergeSort fun a b => (order a b).isLE

/-! ## Finding -/

/-- The issue of an annotated line in a file, if its value is not valid. It points
at the value. -/
def ofLine? (file : Text) (found : AnnotatedLine) : Option Issue := do
  let mismatch ← found.choice.mismatch?
  let assignment ← found.choice.assignment
  let before ← found.text.takeBytes? assignment.valueRange.start
  pure (.invalidValue
    { file, line := found.number, column := before.length + 1, source := found.text }
    (max assignment.value.length 1) mismatch.message)

end Issue

end InlineChoice
