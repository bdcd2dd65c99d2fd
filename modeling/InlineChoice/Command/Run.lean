import InlineChoice.Command.Arguments
import InlineChoice.Command.Checking
import InlineChoice.Command.Editing
import InlineChoice.Command.Listing

/-!
# Running commands

A command line in an environment has an outcome, or it has a usage answer if it asks
for no command.
-/

namespace InlineChoice

/-- Writes the default configuration into the working directory, unless something stands
in its place. -/
def Config.create (env : Environment) : Outcome :=
  let place := env.directory.child fileName
  if env.tree.has place then
    { status := .failure
      notes := Report.line ("Error: ".toList ++ fileName ++ " already exists".toList) }
  else
    { status := .success
      output := Report.line (
        Terminal.paint env.colours (.coloured .green) Report.successMark ++ [' ']
          ++ Terminal.paint env.colours (.coloured .green) ("Created ".toList ++ fileName))
      written := some (place, Config.default.render) }

/-- The outcome of a command. -/
def Command.run [PatternEngine] (env : Environment) : Command → Outcome
  | list request => Listing.run env request
  | toggle request => Editing.toggle env request
  | set request value => Editing.set env request value
  | check request => Checking.run env request
  | init => Config.create env

namespace Invocation

/-- The overview of the commands. -/
def overviewText : Text :=
  (String.intercalate "\n"
    ["Toggle checkbox and carousel values embedded in source-code comments",
     "",
     "Usage: cbtoggle [COMMAND]",
     "",
     "Commands:",
     "  list    List checkbox and carousel annotations",
     "  toggle  Advance an annotation to its next value",
     "  set     Set an annotation to one of its values",
     "  check   Warn about values that are not among their candidates",
     "  init    Initialize a new .cbtogglerc.json configuration file",
     "  help    Print this message or the help of the given subcommand(s)",
     "",
     "Options:",
     "  -h, --help     Print help",
     "  -V, --version  Print version",
     ""]).toList

/-- The outcome of an invocation. -/
def run [PatternEngine] (env : Environment) : Invocation → Outcome
  | overview => { status := .success, output := overviewText }
  | command c => c.run env

/-- The places in the file tree at which a command may look. -/
def places (directory : Location) : Invocation → List Location
  | overview => []
  | command c => Config.placesAbove directory.reverse
      ++ c.paths.flatMap (FileTree.placesOn directory)

end Invocation

/-- The outcome of a command line, with the language that the environment asks for. -/
def runArguments [PatternEngine] (env : Environment) (language : Option Text) (args : List Text) :
    Except Usage Outcome := do
  return (← Invocation.read language args).run env

end InlineChoice
