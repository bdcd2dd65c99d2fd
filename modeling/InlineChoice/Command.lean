import InlineChoice.Text

/-!
# Commands

What a command line asks for. A command says everything that was asked; nothing about
files has been looked up yet.

A file is named by its path as a text, so a path whose bytes are not UTF-8 can be asked
for by no command.
-/

namespace InlineChoice

/-- What all commands on files can be told. -/
structure Settings where
  /-- The language of every file, whatever its name. -/
  language : Option Text
  /-- Whether to say which configuration and which language are in force. -/
  verbose : Bool
  deriving DecidableEq, Repr

/-- Shows the annotations in some files. -/
structure ListRequest where
  /-- Their paths; only paths in UTF-8 are texts. -/
  files : List Text
  /-- What the names of annotations must match. -/
  query : Option Text
  caseSensitive : Bool
  /-- Whether the query is a pattern, even if it does not look like one. -/
  asPattern : Bool
  /-- Whether to write records in JSON. -/
  asJson : Bool
  settings : Settings
  deriving DecidableEq, Repr

/-- Changes the value on one line. -/
structure EditRequest where
  /-- The path of its file; only paths in UTF-8 are texts. -/
  file : Text
  /-- The number of the line, counted from one. -/
  line : Nat
  /-- Whether to write the file; otherwise the change is only shown. -/
  apply : Bool
  settings : Settings
  deriving DecidableEq, Repr

/-- Reports values in some files that are not among their candidates. -/
structure CheckRequest where
  /-- Their paths; only paths in UTF-8 are texts. -/
  files : List Text
  settings : Settings
  deriving DecidableEq, Repr

/-- The commands. -/
inductive Command where
  | list (request : ListRequest)
  /-- Moves the value to its next candidate. -/
  | toggle (request : EditRequest)
  /-- Writes one of the candidates. -/
  | set (request : EditRequest) (value : Text)
  | check (request : CheckRequest)
  /-- Writes the default configuration. -/
  | init
  deriving DecidableEq, Repr

/-- The paths that a command was given. -/
def Command.paths : Command → List Text
  | list request => request.files
  | toggle request => [request.file]
  | set request _ => [request.file]
  | check request => request.files
  | init => []

end InlineChoice
