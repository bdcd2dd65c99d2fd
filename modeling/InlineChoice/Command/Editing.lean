import InlineChoice.Command.Session
import InlineChoice.Document.Edit

/-!
# Editing a line

The commands that change the value on one line. Both show the change that they would
make, and write the file only if they are told to. An edit that changes nothing is a
success without a change, and a line that cannot be edited is refused.
-/

namespace InlineChoice

namespace Editing

open Terminal (paint Style)

variable [PatternEngine]

/-- A line of a file with its annotation. -/
structure Target where
  file : SourceFile
  /-- The number of the line, counted from one. -/
  line : Nat
  choice : Choice

/-- The path and the number of a line. -/
def placeText (path : Text) (line : Nat) : Text :=
  path ++ [':'] ++ Text.ofNat line

/-! ## Answers -/

/-- The outcome of an edit that is refused. -/
def refused (colours : Bool) (reason : Text) : Outcome where
  status := .failure
  output := Report.line (paint colours (.coloured .red) Report.failureMark ++ [' '] ++ reason)

/-- The lines that show an edit. -/
def preview (colours : Bool) (place : Text) (edit : LineEdit) : Text :=
  Report.line (paint colours .bold place)
    ++ Report.line (paint colours (.coloured .red) ['-'] ++ [' '] ++ edit.former)
    ++ Report.line (paint colours (.coloured .green) ['+'] ++ [' '] ++ edit.replacement)
    ++ Report.line ("Run with ".toList ++ paint colours (.coloured .cyan) "--apply".toList
      ++ " to write this change.".toList)

/-- The lines that say that an edit has been written. -/
def confirmation (colours : Bool) (place : Text) (edit : LineEdit) : Text :=
  Report.line (paint colours (Style.coloured .green).emboldened "Updated".toList
      ++ [' '] ++ place)
    ++ Report.line ("  ".toList ++ edit.replacement)

/-- The line that says that an edit changes nothing. -/
def noChange (colours : Bool) (place : Text) : Text :=
  Report.line (paint colours (.coloured .green) Report.successMark ++ [' '] ++ place ++ [' ']
    ++ paint colours (.coloured .green) "is already up to date".toList)

/-- The outcome of an edit. -/
def finish (colours apply : Bool) (target : Target) (edit : LineEdit) : Outcome :=
  let place := placeText target.file.path edit.number
  if edit.isNoop then { status := .success, output := noChange colours place }
  else if apply then
    match target.file.document.edited? edit with
    | some text =>
      { status := .success
        output := confirmation colours place edit
        written := some (target.file.place, text) }
    | none => .failed (.lineGone place) []
  else { status := .success, output := preview colours place edit }

/-- The outcome of an edit that the annotation may not admit. -/
def finishIfAny (colours apply : Bool) (target : Target) : Option LineEdit → Outcome
  | some edit => finish colours apply target edit
  | none =>
    let reason := if target.choice.assignment.isNone then "has no assignment to rewrite".toList
      else "cannot be rewritten".toList
    refused colours (placeText target.file.path target.line ++ [' '] ++ reason)

/-! ## The commands -/

/-- Reads the file of a request and finds the annotation on its line, for which `act`
has the rest of the outcome. -/
def withTarget (env : Environment) (request : EditRequest)
    (act : Session → Target → Outcome) : Outcome :=
  match Session.start env request.settings with
  | .error failure => .failed failure []
  | .ok s =>
    match s.load request.file with
    | .error failure => .failed failure s.configNote
    | .ok file =>
      let notes := s.configNote ++ s.fileNote file
      let content := if request.line = 0 then none else file.document.line? (request.line - 1)
      match content with
      | none =>
        .failed (.noSuchLine file.path request.line file.document.lineCount) notes
      | some content =>
        let choice? := do Choice.parse? (← file.document.token? s.commentSyntax) content
        let outcome := match choice? with
          | none => refused env.colours
              (placeText file.path request.line ++ " has no checkbox annotation".toList)
          | some choice => act s { file, line := request.line, choice }
        { outcome with notes }

/-- Moves the value on a line to its next candidate. -/
def toggle (env : Environment) (request : EditRequest) : Outcome :=
  withTarget env request fun s target =>
    finishIfAny env.colours request.apply target
      (target.file.document.toggle? s.commentSyntax (target.line - 1))

/-- Writes one of its candidates on a line. -/
def set (env : Environment) (request : EditRequest) (value : Text) : Outcome :=
  withTarget env request fun s target =>
    let value := value.trim
    if target.choice.isCandidate value then
      finishIfAny env.colours request.apply target
        (target.file.document.set? s.commentSyntax (target.line - 1) value)
    else
      refused env.colours (['"'] ++ value ++ "\" is not a value of ".toList
        ++ placeText target.file.path target.line ++ " (expected one of: ".toList
        ++ Text.join ", ".toList target.choice.candidates ++ [')'])

end Editing

end InlineChoice
