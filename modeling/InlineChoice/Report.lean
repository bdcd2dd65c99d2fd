import InlineChoice.Issue
import InlineChoice.Terminal
import InlineChoice.Unicode.DisplayWidth

/-!
# Reports

The text that shows the issues of a check, in order:

    warning: Variable value "42" does not match any carousel value (1, 2)  invalid-value
      --> settings.py:3:9
      |
    3 | LEVEL = 42 # [CB]: 1|2
      |         ^^

The bars of all issues stand in one column, right of the widest line number. The
carets start under the first character of the value: they are indented by the
display width of the text in front of it. A summary line ends the report.

* `Report.render` is the whole report.
* `Report.print` is what gets written of it. Carets that stand too far to the right
  cannot be indented (`Report.fits`), and the report breaks off in front of them.
-/

namespace InlineChoice

namespace Report

open Terminal (paint padStart Style)

/-! ## Words -/

/-- The sign in front of a success. -/
def successMark : Text := ['✓']

/-- The sign in front of a failure. -/
def failureMark : Text := ['✘']

/-- The word for one thing or for another number of things. -/
def plural (count : Nat) (one many : Text) : Text :=
  if count = 1 then one else many

/-- A text and a line feed. -/
def line (t : Text) : Text := t ++ ['\n']

/-- A line that says what a command uses. -/
def note (colours : Bool) (t : Text) : Text :=
  line (paint colours (Style.coloured .cyan).emboldened "note:".toList ++ [' '] ++ t)

/-- A line that says what a command could not do. -/
def warning (colours : Bool) (t : Text) : Text :=
  line (paint colours (Style.coloured .yellow).emboldened "warning:".toList ++ [' '] ++ t)

/-! ## Issues -/

/-- The columns of the widest line number. -/
def gutterWidth (issues : List Issue) : Nat :=
  let numbers := issues.filterMap fun issue => issue.place?.map (·.line)
  numbers.max?.elim 1 fun widest => (Text.ofNat widest).length

/-- The style of a severity's name. -/
def severityColour : Severity → Terminal.Colour
  | .error => .red
  | .warning => .yellow

/-- The line with the severity, the message and the rule of an issue. -/
def headline (colours : Bool) (issue : Issue) : Text :=
  line (paint colours (Style.coloured (severityColour issue.severity)).emboldened
      issue.severity.name
    ++ ": ".toList ++ issue.message ++ "  ".toList
    ++ paint colours ⟨some .dimmed, some .cyan⟩ issue.rule.name)

/-- The line with the location of an issue. -/
def pointer (colours : Bool) (location : Text) : Text :=
  line ("  ".toList ++ paint colours (.coloured .blue) "-->".toList ++ [' '] ++ location)

/-- The bar right of the line numbers. -/
def bar (colours : Bool) : Text :=
  paint colours (.coloured .blue) ['|']

/-- The location of an issue: its file and, if it has a place, the line and the column. -/
def location (issue : Issue) : Text :=
  match issue.place? with
  | none => issue.file
  | some place =>
    Text.join [':'] [place.file, Text.ofNat place.line, Text.ofNat place.column]

/-- The two lines that show the source line of an issue. -/
def sourceLines (colours : Bool) (gutter : Nat) (place : SourcePlace) : Text :=
  let number := paint colours (.coloured .blue) (padStart gutter (Text.ofNat place.line))
  line (padStart gutter [] ++ [' '] ++ bar colours)
    ++ line (number ++ [' '] ++ bar colours ++ [' '] ++ place.source)

/-- The columns in front of a place in its line. -/
def indent (place : SourcePlace) : Nat :=
  Unicode.displayWidth (place.source.take (place.column - 1))

/-- The line with the carets of an issue. -/
def caretLine (colours : Bool) (gutter : Nat) (issue : Issue) (place : SourcePlace) : Text :=
  let carets := List.replicate issue.caretCount '^'
  line (padStart gutter [] ++ [' '] ++ bar colours ++ [' '] ++ padStart (indent place) []
    ++ paint colours (.coloured (severityColour issue.severity)) carets)

/-- The lines of an issue in front of its carets. -/
def opening (colours : Bool) (gutter : Nat) (issue : Issue) : Text :=
  headline colours issue ++ pointer colours (location issue)
    ++ issue.place?.elim [] (sourceLines colours gutter)

/-- An issue, with an empty line after it. -/
def entry (colours : Bool) (gutter : Nat) (issue : Issue) : Text :=
  opening colours gutter issue ++ issue.place?.elim [] (caretLine colours gutter issue) ++ line []

/-! ## Summaries -/

/-- The line that counts the issues. -/
def summary (colours : Bool) (issues : List Issue) : Text :=
  let total := issues.length
  let errors := issues.countP (·.severity = .error)
  let warnings := issues.countP (·.severity = .warning)
  line (paint colours (.coloured .red) failureMark ++ [' '] ++ Text.ofNat total ++ [' ']
    ++ plural total "problem".toList "problems".toList
    ++ " (".toList ++ Text.ofNat errors ++ [' ']
    ++ paint colours (.coloured .red) (plural errors "error".toList "errors".toList)
    ++ ", ".toList ++ Text.ofNat warnings ++ [' ']
    ++ paint colours (.coloured .yellow) (plural warnings "warning".toList "warnings".toList)
    ++ [')'])

/-- The line that says that nothing was found. -/
def success (colours : Bool) (files annotations : Nat) : Text :=
  line (paint colours (.coloured .green) successMark ++ [' ']
    ++ paint colours (.coloured .green)
      ("Checked ".toList ++ Text.ofNat files ++ [' ']
        ++ plural files "file".toList "files".toList
        ++ ", ".toList ++ Text.ofNat annotations ++ [' ']
        ++ plural annotations "annotation".toList "annotations".toList
        ++ " - no issues found".toList))

/-! ## Reports -/

/-- The report of some issues; without issues there is nothing to report. -/
def render (colours : Bool) (issues : List Issue) : Text :=
  if issues = [] then []
  else
    let sorted := Issue.sort issues
    sorted.flatMap (entry colours (gutterWidth sorted)) ++ summary colours sorted

/-- Whether the carets of an issue can be indented. -/
def fits (issue : Issue) : Bool :=
  issue.place?.all fun place => indent place ≤ Terminal.widestPadding

/-- What gets written of a report. -/
structure Printed where
  text : Text
  /-- Whether this is the whole report. -/
  isComplete : Bool
  deriving DecidableEq, Repr

/-- Writes the report of some issues. The first issue in order whose carets cannot be
indented is where the report breaks off. -/
def print (colours : Bool) (issues : List Issue) : Printed :=
  let sorted := Issue.sort issues
  let gutter := gutterWidth sorted
  match sorted.dropWhile fits with
  | [] => ⟨render colours issues, true⟩
  | issue :: _ =>
    ⟨(sorted.takeWhile fits).flatMap (entry colours gutter) ++ opening colours gutter issue, false⟩

end Report

end InlineChoice
