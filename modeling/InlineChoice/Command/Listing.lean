import InlineChoice.Choice.Validity
import InlineChoice.Command.Session
import InlineChoice.Glyph
import InlineChoice.NameFilter

/-!
# Listing annotations

A listing shows the annotations of each file with their glyphs and candidates:

    settings.py
      ☑ DEBUG = True  line 3
          ✓ True
            False

    ✓ 1 annotation in 1 file

The same annotations can be written as records in JSON. A file that cannot be read is
passed over with a warning, and the command then ends in error.
-/

namespace InlineChoice

namespace Listing

open Terminal (paint Style)

variable [PatternEngine]

/-- The annotations of one file that a listing shows. -/
structure FileListing where
  path : Text
  found : List AnnotatedLine

/-- The name that stands for an annotation without one. -/
def unnamed : Text := "(unnamed)".toList

/-- The name under which an annotation is listed. -/
def displayName (choice : Choice) : Text :=
  choice.name?.getD unnamed

/-! ## Text -/

/-- The line of a candidate; the value of the annotation is marked. -/
def candidateLine (colours : Bool) (choice : Choice) (candidate : Text) : Text :=
  let mark := if choice.value? = some candidate
    then paint colours (.coloured .green) Report.successMark else [' ']
  Report.line ("      ".toList ++ mark ++ [' '] ++ candidate)

/-- The lines of an annotation. -/
def annotationLines (colours : Bool) (found : AnnotatedLine) : Text :=
  let choice := found.choice
  let glyph := match Glyph.sign? choice with
    | some (sign, style) => paint colours style sign
    | none => [' ']
  Report.line ("  ".toList ++ glyph ++ [' '] ++ displayName choice ++ " = ".toList
      ++ choice.value?.getD "(none)".toList ++ "  ".toList
      ++ paint colours .dimmed ("line ".toList ++ Text.ofNat found.number))
    ++ choice.candidates.flatMap (candidateLine colours choice)

/-- The lines of a file. -/
def fileLines (colours : Bool) (s : FileListing) : Text :=
  Report.line (paint colours .bold s.path)
    ++ s.found.flatMap (annotationLines colours) ++ Report.line []

/-- The line that counts what has been listed. -/
def summary (colours : Bool) (annotations files : Nat) : Text :=
  if annotations = 0 then Report.line "No checkbox annotations found.".toList
  else Report.line (paint colours (.coloured .green) Report.successMark
    ++ [' '] ++ Text.ofNat annotations ++ [' ']
    ++ Report.plural annotations "annotation".toList "annotations".toList ++ " in ".toList
    ++ Text.ofNat files ++ [' '] ++ Report.plural files "file".toList "files".toList)

/-- A listing. Files without annotations are left out. -/
def render (colours : Bool) (listings : List FileListing) : Text :=
  let shown := listings.filter fun s => !s.found.isEmpty
  shown.flatMap (fileLines colours)
    ++ summary colours (shown.flatMap (·.found)).length shown.length

/-! ## Records -/

/-- What a listing says of an annotation. -/
structure Record where
  file : Text
  line : Nat
  name : Text
  value : Option Text
  candidates : List Text
  shape : Shape
  state : Option BoxState
  position : Option Nat
  valid : Bool
  deriving DecidableEq, Repr

/-- The record of an annotation in a file. -/
def Record.ofLine (file : Text) (found : AnnotatedLine) : Record where
  file
  line := found.number
  name := displayName found.choice
  value := found.choice.value?
  candidates := found.choice.candidates
  shape := found.choice.shape
  state := found.choice.boxState?
  position := found.choice.carouselIndex?
  valid := found.choice.isValid

/-- A record as an object. The state of a box and the position in a carousel are fields
only where there is one. -/
def Record.json (r : Record) : Json :=
  .object (
    [("file".toList, .string r.file), ("line".toList, .number r.line),
      ("name".toList, .string r.name),
      ("value".toList, r.value.elim .null .string),
      ("candidates".toList, .array (r.candidates.map .string)),
      ("kind".toList, .string r.shape.name)]
    ++ (r.state.map fun s => ("state".toList, Json.string s.name)).toList
    ++ (r.position.map fun p => ("position".toList, Json.number p)).toList
    ++ [("valid".toList, .bool r.valid)])

/-- The records of a listing, in order. -/
def records (listings : List FileListing) : List Record :=
  listings.flatMap fun s => s.found.map (Record.ofLine s.path)

/-- The records of a listing as a text. -/
def renderRecords (listings : List FileListing) : Text :=
  Report.line (Json.pretty (.array ((records listings).map Record.json)))

/-! ## The command -/

/-- The filter that a request asks for. -/
def filterOf (request : ListRequest) : NameFilter :=
  let query := request.query.getD []
  NameFilter.ofQuery query request.caseSensitive
    (request.asPattern || NameFilter.looksLikePattern query)

/-- The warning about a query that is no pattern. -/
def filterWarning (colours : Bool) (request : ListRequest) : Text :=
  if (filterOf request).isInvalid then
    Report.warning colours ("Invalid filter pattern '".toList ++ request.query.getD []
      ++ "', no annotation will match".toList)
  else []

/-- The listing of a file that has been read. -/
def fileListing (s : Session) (filter : NameFilter) (file : SourceFile) : FileListing where
  path := file.path
  found := (file.document.scan s.commentSyntax).filter fun found =>
    filter.accepts (displayName found.choice)

/-- What is said about a file on standard error. -/
def remark (s : Session) : Except Failure SourceFile → Text
  | .ok file => s.fileNote file
  | .error failure => Report.warning s.colours failure.message

/-- Lists the annotations of files. -/
def run (env : Environment) (request : ListRequest) : Outcome :=
  match Session.start env request.settings with
  | .error failure => .failed failure []
  | .ok s =>
    let results := request.files.map s.load
    let files := results.filterMap Except.toOption
    let listings := files.map (fileListing s (filterOf request))
    { status := if files.length = results.length then .success else .error
      output := if request.asJson then renderRecords listings else render env.colours listings
      notes := s.configNote ++ filterWarning env.colours request ++ results.flatMap (remark s) }

end Listing

end InlineChoice
