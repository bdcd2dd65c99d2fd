import InlineChoice.Choice
import InlineChoice.CommentSyntax

/-!
# Documents

A document is a text of a known language, cut into lines. Each line keeps its
own terminator, so the lines put together are the text again, and a line that is
replaced takes nothing else with it.

A line ends with a line feed or with a carriage return and a line feed. A
carriage return elsewhere is an ordinary character, and only the last line may
have no terminator.
-/

namespace InlineChoice

/-! ## Lines -/

/-- What ends a line. -/
inductive Terminator where
  | lineFeed
  | carriageReturnLineFeed
  /-- The end of the text. -/
  | endOfText
  deriving DecidableEq, Repr

/-- The characters of a terminator. -/
def Terminator.text : Terminator → Text
  | lineFeed => ['\n']
  | carriageReturnLineFeed => ['\r', '\n']
  | endOfText => []

/-- A line of a document. -/
structure TerminatedLine where
  content : Text
  terminator : Terminator
  deriving DecidableEq, Repr

namespace TerminatedLine

/-- The characters of a line, its terminator included. -/
def text (line : TerminatedLine) : Text :=
  line.content ++ line.terminator.text

/-- The lines of a text. The empty text has none. -/
def ofText : Text → List TerminatedLine
  | [] => []
  | '\n' :: rest => ⟨[], .lineFeed⟩ :: ofText rest
  | '\r' :: '\n' :: rest => ⟨[], .carriageReturnLineFeed⟩ :: ofText rest
  | c :: rest =>
    match ofText rest with
    | [] => [⟨[c], .endOfText⟩]
    | line :: lines => { line with content := c :: line.content } :: lines

/-- The text that some lines make up. -/
def toText (lines : List TerminatedLine) : Text :=
  lines.flatMap text

end TerminatedLine

/-! ## Documents -/

/-- A text of a known language. -/
structure Document where
  language : Text
  lines : List TerminatedLine

namespace Document

/-- The document with the given text. -/
def ofText (language text : Text) : Document :=
  ⟨language, TerminatedLine.ofText text⟩

/-- The text of a document. -/
def text (doc : Document) : Text :=
  TerminatedLine.toText doc.lines

/-- The number of lines. -/
def lineCount (doc : Document) : Nat :=
  doc.lines.length

/-- The content of a line, counted from zero. -/
def line? (doc : Document) (index : Nat) : Option Text :=
  doc.lines[index]?.map (·.content)

/-- The text in which the content of one line is replaced. -/
def replaceLine? (doc : Document) (index : Nat) (content : Text) : Option Text :=
  doc.lines[index]?.map fun line =>
    TerminatedLine.toText (doc.lines.set index { line with content })

/-- The comment token of a document. There is none where an override made it empty or
too large for the engine, and then nothing in the document is annotated. -/
def token? [PatternEngine] (doc : Document) (syn : CommentSyntax) : Option CommentToken :=
  CommentToken.ofText? (syn.tokenFor doc.language)

end Document

/-! ## Scanning -/

/-- A line with an annotation. -/
structure AnnotatedLine where
  /-- The position of the line, counted from zero. -/
  index : Nat
  text : Text
  choice : Choice

/-- The number of a line, counted from one. -/
def AnnotatedLine.number (found : AnnotatedLine) : Nat :=
  found.index + 1

namespace Document

/-- The annotated lines, in order. -/
def scan [PatternEngine] (doc : Document) (syn : CommentSyntax) : List AnnotatedLine :=
  match doc.token? syn with
  | none => []
  | some token =>
    doc.lines.zipIdx.filterMap fun (line, index) =>
      (Choice.parse? token line.content).map (⟨index, line.content, ·⟩)

end Document

end InlineChoice
