import InlineChoice.Choice

/-!
# Line tables

A line table finds the lines of a text that is kept in one piece. It holds one range of
byte offsets for each line, around its content and without its terminator.

The table is made in one pass. The text falls into segments, each of which runs through
the next line feed, and an offset moves from segment to segment. What a segment has in
front of its terminator is the content of its line.
-/

namespace InlineChoice

namespace Text

/-- The segments of a text: each of them ends with the only line feed in it, except that
the last one may end with the text. -/
def segments : Text → List Text
  | [] => []
  | c :: rest =>
    if c = '\n' then [c] :: segments rest
    else match segments rest with
      | [] => [[c]]
      | segment :: others => (c :: segment) :: others

/-- A text without its last character, if this is `c`. -/
def stripLast? (c : Char) (t : Text) : Option Text :=
  if t.getLast? = some c then some t.dropLast else none

/-- The text in which another text stands in place of a range, if both ends of the range
are character boundaries. -/
def splice? (t : Text) (range : ByteRange) (content : Text) : Option Text := do
  let front ← t.takeBytes? range.start
  let back ← t.dropBytes? range.stop
  pure (front ++ content ++ back)

end Text

namespace LineTable

/-- A segment without its line feed and without a carriage return in front of it. A
carriage return at the end of a segment without a line feed stays. -/
def content (segment : Text) : Text :=
  match segment.stripLast? '\n' with
  | none => segment
  | some front => (front.stripLast? '\r').getD front

/-- The ranges of the contents of some segments, the first of which begins at an offset. -/
def rangesFrom (start : Nat) : List Text → List ByteRange
  | [] => []
  | segment :: others =>
    ⟨start, start + (content segment).byteSize⟩ ::
      rangesFrom (start + segment.byteSize) others

/-- The line table of a text. -/
def ofText (t : Text) : List ByteRange :=
  rangesFrom 0 t.segments

end LineTable

end InlineChoice
