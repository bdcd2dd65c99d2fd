import InlineChoice.Command
import InlineChoice.Command.Outcome
import InlineChoice.Document
import InlineChoice.Report

/-!
# Sessions

A command on files starts a session: it loads the configuration in force and then
reads files, each as a document of its language. A verbose session says what it uses.
-/

namespace InlineChoice

/-- Where a command runs. -/
structure Environment where
  tree : FileTree
  /-- The working directory. -/
  directory : Location
  /-- Whether the terminal shows colours. -/
  colours : Bool

/-- A command that has loaded its configuration. -/
structure Session where
  environment : Environment
  settings : Settings
  config : Config
  /-- The file that holds the configuration; the default one is in none. -/
  configPlace : Option Location

/-- A file that has been read. -/
structure SourceFile where
  /-- The path as it was given. -/
  path : Text
  place : Location
  document : Document

namespace Session

/-- Starts a session. -/
def start (env : Environment) (settings : Settings) : Except Failure Session := do
  let (config, configPlace) ← (Config.load env.tree env.directory).mapError Failure.config
  return { environment := env, settings, config, configPlace }

/-- Whether the terminal shows colours. -/
def colours (s : Session) : Bool := s.environment.colours

/-- The comment syntax in force. -/
def commentSyntax (s : Session) : CommentSyntax := s.config.commentSyntax

/-- The language of a file. -/
def languageFor (s : Session) (path : Text) : Text :=
  s.settings.language.getD (s.commentSyntax.languageFor (FilePath.ofText path))

/-- Reads a file. -/
def load (s : Session) (path : Text) : Except Failure SourceFile :=
  let tree := s.environment.tree
  let content : Except ReadFault (Location × Text) := do
    let place ← tree.locate s.environment.directory path
    return (place, ← tree.readAt place)
  match content with
  | .ok (place, text) => .ok { path, place, document := .ofText (s.languageFor path) text }
  | .error fault => .error (.unreadable path fault)

/-! ## Notes -/

/-- A note, if the session is verbose. -/
def note (s : Session) (t : Text) : Text :=
  if s.settings.verbose then Report.note s.colours t else []

/-- The note on the configuration. -/
def configNote (s : Session) : Text :=
  s.note (match s.configPlace with
    | some place => "using config ".toList ++ place.path
    | none => "no config file found, using defaults".toList)

/-- The note on a file that has been read. -/
def fileNote (s : Session) (file : SourceFile) : Text :=
  let language := file.document.language
  s.note (file.path ++ " as ".toList ++ language ++ " (comment token ".toList
    ++ s.commentSyntax.tokenFor language ++ ")".toList)

end Session

end InlineChoice
