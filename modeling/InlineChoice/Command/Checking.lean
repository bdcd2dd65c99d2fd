import InlineChoice.Command.Session

/-!
# Checking files

A check collects the issues of some files: one for each file that cannot be read, and
one for each annotated line whose value is not among its candidates. Its status depends on
what it found, and on whether it could write that down.
-/

namespace InlineChoice

namespace Checking

variable [PatternEngine]

/-- The issues of one file that was to be read. -/
def issuesOf (s : Session) (path : Text) : Except Failure SourceFile → List Issue
  | .ok file => (file.document.scan s.commentSyntax).filterMap (Issue.ofLine? path)
  | .error failure => [.readError path failure.message]

/-- The issues of some files, in the order of the files. -/
def issues (s : Session) (paths : List Text) : List Issue :=
  paths.flatMap fun path => issuesOf s path (s.load path)

/-- The status of a check that has reported what it found. -/
def statusOf (found : List Issue) : ExitStatus :=
  if found = [] then .success
  else if found.any (·.severity = .error) then .error
  else .failure

/-- Checks files. -/
def run (env : Environment) (request : CheckRequest) : Outcome :=
  match Session.start env request.settings with
  | .error failure => .failed failure []
  | .ok s =>
    let found := issues s request.files
    let files := (request.files.map s.load).filterMap Except.toOption
    let annotations := (files.flatMap fun file => file.document.scan s.commentSyntax).length
    let report := Report.print env.colours found
    { status := if report.isComplete then statusOf found else .aborted
      output :=
        if found = [] then Report.success env.colours files.length annotations else report.text
      notes := s.configNote ++ files.flatMap s.fileNote }

end Checking

end InlineChoice
