import InlineChoice.Pattern.Engine

/-!
# Markers

A marker declares the values that the assignment in front of it may take. It is
a line-comment token, the tag `[CB]:`, and a list of candidates separated by
bars:

    DEBUG = True # [CB]: True|False

White space may stand between the token and the tag and after the tag. The list
runs to the end of the line or to the first empty segment.

As a pattern this is `Marker.patternText`, and a text whose pattern the engine refuses
spells no token. The search itself needs no engine:

* `Marker.readAt?` reads a marker that starts at the head of a text.
* `Marker.find?` finds the leftmost marker of a line and the text in front of
  it. A later marker is never considered, even if the leftmost one turns out to
  declare nothing.
* `Marker.candidates` are the trimmed segments of the list that are not blank.
-/

namespace InlineChoice

/-! ## The pattern of a marker -/

namespace Marker

/-- The tag between the comment token and the candidate list. -/
def tag : Text := ['[', 'C', 'B', ']', ':']

/-- The white space on both sides of the tag, as a pattern. -/
def blanksText : Text := ['\\', 's', '*']

/-- A segment of a candidate list, as a pattern. -/
def segmentText : Text := ['[', '^', '|', '\\', 'n', ']', '+']

/-- A candidate list, as a pattern: segments with bars between them. -/
def listText : Text :=
  ['('] ++ segmentText ++ ['(', '?', ':', '\\', '|'] ++ segmentText ++ [')', '*', ')']

/-- The text of the pattern of a marker, whose one group is the candidate list. -/
def patternText (token : Text) : Text :=
  Pattern.escape token ++ blanksText ++ Pattern.escape tag ++ blanksText ++ listText

/-- Whether the engine admits the pattern of a marker. -/
def compiles [PatternEngine] (token : Text) : Bool :=
  PatternEngine.admits [.unicode] (patternText token)

end Marker

/-! ## Comment tokens -/

/-- A line-comment token: any text but the empty one. -/
structure CommentToken where
  text : Text
  text_ne_nil : text ≠ []

namespace CommentToken

/-- The token spelled by a text. The empty text spells none, and neither does one whose
pattern is too large for the engine. -/
def ofText? [PatternEngine] (t : Text) : Option CommentToken :=
  if h : t = [] then none
  else if Marker.compiles t then some ⟨t, h⟩
  else none

/-- The token of scripting languages and of everything unknown. -/
def hash : CommentToken := ⟨['#'], by simp⟩

/-- The token of the languages in the tradition of C. -/
def slashes : CommentToken := ⟨['/', '/'], by simp⟩

end CommentToken

/-! ## Candidate lists -/

namespace CandidateList

/-- A character that a segment of a candidate list may hold. -/
def isSegmentChar (c : Char) : Bool :=
  c ≠ '|' && c ≠ '\n'

/--
The longest candidate list at the head of a text, and the text after it. A bar
belongs to the list only if a segment follows it.
-/
def take : Text → Text × Text
  | [] => ([], [])
  | c :: rest =>
    if c = '\n' then ([], c :: rest)
    else if c = '|' && !(rest.head?.any isSegmentChar) then ([], c :: rest)
    else ((c :: (take rest).1), (take rest).2)

/-- The segments that are not blank, trimmed, in order. -/
def candidates (list : Text) : List Text :=
  ((Text.pieces '|' list).map Text.trim).filter (· ≠ [])

end CandidateList

/-! ## Markers -/

/-- A marker as it stands in a line: its text, the candidate list that ends this
text, and the rest of the line. -/
structure Marker where
  span : Text
  list : Text
  tail : Text

namespace Marker

/-- What follows `start` in a text that begins with it. -/
def after? (start : Text) (t : Text) : Option Text :=
  if start.isPrefixOf t then some (t.drop start.length) else none

/--
Where the candidate list begins in the text after the tag: the white space in
front of it, and the text from its first character on.

The list begins at the first character that is not white space. Where there is
none, or where it is a bar, the last white-space character in front of it takes
the place of a first segment; a line feed cannot.
-/
def listStart? (afterTag : Text) : Option (Text × Text) :=
  let blanks := afterTag.takeWhile Text.isBlank
  let rest := afterTag.dropWhile Text.isBlank
  if rest.head?.any (· ≠ '|') then some (blanks, rest)
  else
    let kept := Text.dropEndWhile (· = '\n') blanks
    kept.getLast?.map fun last =>
      (kept.dropLast, last :: afterTag.drop kept.length)

/-- The marker of `token` that starts at the head of a text. -/
def readAt? (token : CommentToken) (t : Text) : Option Marker := do
  let afterToken ← after? token.text t
  let gap := afterToken.takeWhile Text.isBlank
  let afterTag ← after? tag (afterToken.dropWhile Text.isBlank)
  let (blanks, body) ← listStart? afterTag
  let (list, tail) := CandidateList.take body
  pure { span := token.text ++ gap ++ tag ++ blanks ++ list, list, tail }

/-- The leftmost marker of `token` in a line, after the text in front of it. -/
def find? (token : CommentToken) : Text → Option (Text × Marker)
  | [] => (readAt? token []).map ([], ·)
  | c :: rest =>
    match readAt? token (c :: rest) with
    | some marker => some ([], marker)
    | none => (find? token rest).map fun (head, marker) => (c :: head, marker)

/-- The values that a marker declares. -/
def candidates (marker : Marker) : List Text :=
  CandidateList.candidates marker.list

end Marker

end InlineChoice
