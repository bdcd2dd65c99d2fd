import InlineChoice.Command.Run

/-!
# The program

Looks at the places that the command line concerns, runs it on what stands there, and
carries out the outcome. Nothing is decided here. The patterns are searched for by the
library's own search, which has no limit on their size.
-/

namespace InlineChoice

namespace Program

open scoped PatternEngine

/-- The version of the program. -/
def version : String := "0.1.0"

/-- The variable with the language of every file. -/
def languageVariable : String := "CBTOGGLE_LANGUAGE"

/-! ## Errors of the system -/

/-- The number and the wording of an error, if the system has reported it. -/
def systemError? : IO.Error → Option (UInt32 × String)
  | .alreadyExists _ number wording | .otherError number wording | .resourceBusy number wording
  | .resourceVanished number wording | .unsupportedOperation number wording
  | .hardwareFault number wording | .unsatisfiedConstraints number wording
  | .illegalOperation number wording | .protocolError number wording
  | .timeExpired number wording | .interrupted _ number wording
  | .noFileOrDirectory _ number wording | .invalidArgument _ number wording
  | .permissionDenied _ number wording | .resourceExhausted _ number wording
  | .inappropriateType _ number wording | .noSuchThing _ number wording =>
    -- Some calls report the number with the opposite sign.
    some (min number (0 - number), wording)
  | .unexpectedEof | .userError _ => none

/-- The wording of an error. -/
def reason (e : IO.Error) : String :=
  match systemError? e with
  | some (number, wording) => wording.capitalize ++ " (os error " ++ toString number ++ ")"
  | none => toString e

/-- The numbers of the errors that say that nothing stands at a place: there is no file,
something on the way is no directory, or a name is too long. -/
def absenceNumbers : List UInt32 := [2, 20, 36]

/-- The number of the error for reading a directory. -/
def directoryNumber : UInt32 := 21

/-! ## Looking -/

/-- What an error says of the place that was to be read. -/
def nodeOfError? (e : IO.Error) : Option Node :=
  match (systemError? e).map Prod.fst with
  | none => some (.refused (reason e).toList)
  | some number =>
    if absenceNumbers.contains number then none
    else if number = directoryNumber then some .directory
    else some (.refused (reason e).toList)

/-- What stands at a place. -/
def lookAt (place : Location) : IO (Option Node) := do
  try
    let bytes ← IO.FS.readBinFile (String.ofList place.path)
    return some (.file (Text.ofUtf8? bytes.toList))
  catch e =>
    return nodeOfError? e

/-- The tree of what stands at some places. -/
def treeOf (places : List Location) : IO FileTree := do
  let entries ← places.eraseDups.filterMapM fun place => do
    return (← lookAt place).map fun node => (place, node)
  return .ofEntries entries

/-- Whether a variable switches something on or off, if it is set. -/
def switch? (name : String) : IO (Option Bool) := do
  return (← IO.getEnv name).map (· ≠ "0")

/-- Whether the terminal shows colours. A variable that forces them comes before one that
forbids them, and both come before the kind of the terminal. -/
def showsColours : IO Bool := do
  if (← switch? "CLICOLOR_FORCE") = some true then return true
  if (← switch? "NO_COLOR").isSome then return false
  return ((← switch? "CLICOLOR").getD true) && (← (← IO.getStdout).isTty)

/-! ## Carrying out -/

/-- The file that a command writes, in the words of a message about it: the one that it
was given, or else the configuration. -/
def targetOf (c : Command) : Text :=
  match c.paths with
  | [] => Config.fileName
  | path :: _ => "file: ".toList ++ path

/-- Writes a file for a command, and says whether this was possible. -/
def write (c : Command) (place : Location) (content : Text) : IO Bool := do
  try
    IO.FS.writeFile (String.ofList place.path) (String.ofList content)
    return true
  catch e =>
    IO.eprintln ("Error: Failed to write " ++ String.ofList (targetOf c) ++ ": " ++ reason e)
    return false

/-- Carries out an outcome. Its notes are on what was done before its file is written; what
it puts out is put out only if this was possible. -/
def carryOut (invocation : Invocation) (outcome : Outcome) : IO UInt32 := do
  IO.eprint (String.ofList outcome.notes)
  if let (.command c, some (place, content)) := (invocation, outcome.written) then
    unless ← write c place content do return ExitStatus.error.code.toUInt32
  IO.print (String.ofList outcome.output)
  if let some failure := outcome.failure then
    IO.eprintln ("Error: " ++ String.ofList failure.message)
  return outcome.status.code.toUInt32

/-- Answers a command line that asks for no command. -/
def answer : Usage → IO UInt32
  | .help => do
    IO.print (String.ofList Invocation.overviewText)
    return 0
  | .version => do
    IO.println ("cbtoggle " ++ version)
    return 0
  | .misuse => do
    IO.eprintln "error: invalid arguments"
    IO.eprintln "For more information, try '--help'."
    return 2

/-- Runs a command line. -/
def run (args : List String) : IO UInt32 := do
  let language ← IO.getEnv languageVariable
  match Invocation.read (language.map String.toList) (args.map String.toList) with
  | .error usage => answer usage
  | .ok invocation =>
    let path := (toString (← IO.currentDir)).toList
    let directory : Location := (Text.pieces '/' path).filter (· ≠ [])
    let tree ← treeOf (invocation.places directory)
    carryOut invocation (invocation.run { tree, directory, colours := ← showsColours })

end Program

end InlineChoice

/-- The program. -/
def main (args : List String) : IO UInt32 :=
  InlineChoice.Program.run args
