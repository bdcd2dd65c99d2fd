import InlineChoice.Choice.Edit
import InlineChoice.Proofs.Annotation

/-!
# What an edit keeps

Writing a value keeps three parts of a line: the target in front of the value,
the marker behind it, and the text after the marker. Together with the
candidates these make up the *frame* of the line, and the edits are functions of
the frame alone: `Frame.Reads.setValue_eq` and `Frame.Reads.advance_eq` say that
both write one value into it.

The law that everything later rests on is `Frame.Reads.write`. For a plain token
the written line reads as the same frame with the written value, so the parser
finds the inserted value and nothing that the new text could have formed with its
neighbours. `parseWith?_setValue` is that law for one annotation, and
`edited_line_parts` says which parts of a line an edit replaces at all.
-/

namespace InlineChoice

/-! ## The next candidate -/

/-- Where there are candidates, one of them is the next. -/
theorem exists_nextValue? {candidates : List Text} (h : candidates ≠ [])
    (current : Option Text) : ∃ next ∈ candidates, nextValue? candidates current = some next := by
  obtain ⟨first, others, rfl⟩ := List.exists_cons_of_ne_nil h
  rw [nextValue?]
  split
  · next i _ =>
      cases hi : (first :: others)[i + 1]? with
      | none => exact ⟨first, List.mem_cons_self, rfl⟩
      | some next => exact ⟨next, List.mem_of_getElem? hi, rfl⟩
  · exact ⟨first, List.mem_cons_self, rfl⟩

/-! ## Frames -/

/-- What an edit keeps of a line, and the candidates that the marker declares. -/
structure Frame where
  target : Text
  marker : Text
  tail : Text
  candidates : List Text

namespace Frame

/-- The line with the frame and a value, between single spaces. -/
def write (frame : Frame) (value : Text) : Text :=
  frame.target ++ [' '] ++ value ++ [' '] ++ frame.marker ++ frame.tail

/-- The annotation of the line has the frame, and assigns the value. -/
def Reads [PatternEngine] (frame : Frame) (token : CommentToken) (line value : Text) : Prop :=
  ∃ a start, Choice.parseWith? token.text line = some a ∧
    a.assignment = some ⟨frame.target, value, start⟩ ∧
    a.candidates = frame.candidates ∧ a.marker = frame.marker ∧
    line.dropBytes? a.markerRange.stop = some frame.tail

/-- A line with an annotated assignment has parts, and reads as their frame. -/
theorem exists_reads [PatternEngine] {token line : Text} {a : Choice} {asg : Assignment}
    (hparse : Choice.parseWith? token line = some a) (hasg : a.assignment = some asg) :
    ∃ (t : CommentToken) (before after tail : Text), t.text = token ∧
      a.Parts asg line before after tail ∧
      Reads ⟨asg.target, a.marker, tail, a.candidates⟩ t line asg.value := by
  obtain ⟨t, rfl, hread⟩ := Choice.exists_token_of_parseWith? hparse
  obtain ⟨before, after, tail, parts⟩ := Choice.parts_of_parse? hread hasg
  exact ⟨t, before, after, tail, rfl, parts, a, asg.valueStart, hparse, hasg, rfl, rfl,
    parts.dropBytes?⟩

namespace Reads

variable [PatternEngine] {frame : Frame} {token : CommentToken} {line w : Text}

theorem compiles (h : frame.Reads token line w) : Marker.compiles token.text := by
  obtain ⟨a, start, hparse, -⟩ := h
  exact (Choice.parseWith?_text_eq_some_iff.mp hparse).1

/-- Where the parts of a frame stand: the target begins the text in front of the
leftmost marker, and the value is what that text holds behind it, trimmed. -/
theorem exists_leftmost (h : frame.Reads token line w) :
    ∃ rest m, Marker.Leftmost token (frame.target ++ rest) m ∧
      frame = ⟨frame.target, m.span, m.tail, m.candidates⟩ ∧ m.candidates ≠ [] ∧
      line = frame.target ++ rest ++ (m.span ++ m.tail) ∧
      Assignment.IsTarget frame.target ∧ rest.head? ≠ some '=' ∧ w = rest.trim := by
  obtain ⟨a, start, hparse, hasg, hcand, hmarker, htail⟩ := h
  obtain ⟨-, hparse⟩ := Choice.parseWith?_text_eq_some_iff.mp hparse
  obtain ⟨head, m, hfind, hne, rfl⟩ := Choice.parse?_eq_some_iff.mp hparse
  obtain ⟨rfl, hleft⟩ := Marker.find?_eq_some_iff.mp hfind
  obtain ⟨rest, rfl, htarget, hrest, hvalue, -⟩ := Assignment.exists_target_of_ofHead? hasg
  have htail : m.tail = frame.tail :=
    Option.some.inj ((Text.dropBytes?_behind _ m.span m.tail).symm.trans htail)
  refine ⟨rest, m, hleft, ?_, hne, rfl, htarget, hrest, hvalue⟩
  rw [htail, show m.span = frame.marker from hmarker,
    show m.candidates = frame.candidates from hcand]

theorem candidates_ne_nil (h : frame.Reads token line w) : frame.candidates ≠ [] := by
  obtain ⟨rest, m, -, hframe, hne, -⟩ := h.exists_leftmost
  rw [hframe]
  exact hne

theorem trim_candidate (h : frame.Reads token line w) {c : Text} (hc : c ∈ frame.candidates) :
    c.trim = c := by
  obtain ⟨rest, m, -, hframe, -⟩ := h.exists_leftmost
  rw [hframe] at hc
  exact (CandidateList.trim_of_mem_candidates hc).1

theorem candidate_ne_nil (h : frame.Reads token line w) {c : Text} (hc : c ∈ frame.candidates) :
    c ≠ [] := by
  obtain ⟨rest, m, -, hframe, -⟩ := h.exists_leftmost
  rw [hframe] at hc
  exact (CandidateList.trim_of_mem_candidates hc).2

/-- Writing into an annotation writes into its frame. -/
theorem withValue?_eq (h : frame.Reads token line w) :
    ∃ a, Choice.parseWith? token.text line = some a ∧ a.candidates = frame.candidates ∧
      a.value? = some w ∧ ∀ value, a.withValue? line value = some (frame.write value) := by
  obtain ⟨a, start, hparse, hasg, hcand, hmarker, htail⟩ := h
  refine ⟨a, hparse, hcand, by rw [Choice.value?, hasg]; rfl, fun value => ?_⟩
  simp only [Choice.withValue?, hasg, htail, hmarker, Option.getD_some]
  rfl

/-- Setting a value writes it, trimmed, into the frame. -/
theorem setValue_eq (h : frame.Reads token line w) (value : Text) :
    Line.setValue token.text value line = frame.write value.trim := by
  obtain ⟨a, hparse, -, -, hwrite⟩ := h.withValue?_eq
  simp only [Line.setValue, Line.setValue?, hparse, Option.bind_eq_bind, Option.bind_some,
    hwrite, Option.getD_some]

/-- Advancing writes the next candidate into the frame. -/
theorem advance_eq (h : frame.Reads token line w) :
    ∃ next ∈ frame.candidates, nextValue? frame.candidates (some w) = some next ∧
      Line.advance token.text line = frame.write next := by
  obtain ⟨next, hmem, hnext⟩ := exists_nextValue? h.candidates_ne_nil (some w)
  obtain ⟨a, hparse, hcand, hvalue, hwrite⟩ := h.withValue?_eq
  refine ⟨next, hmem, hnext, ?_⟩
  have hchoice : a.nextValue? = some next := by
    rw [Choice.nextValue?, hcand, hvalue, hnext]
  simp only [Line.advance, Line.advance?, hparse, Option.bind_eq_bind, Option.bind_some,
    hchoice, hwrite, Option.getD_some]

end Reads

/-- The converse: the frame and the value of a line follow from its leftmost
marker and a target in front of it. -/
theorem reads_of_leftmost [PatternEngine] {token : CommentToken} {target rest : Text} {m : Marker}
    (compiles : Marker.compiles token.text) (hleft : Marker.Leftmost token (target ++ rest) m)
    (hne : m.candidates ≠ []) (htarget : Assignment.IsTarget target)
    (hrest : rest.head? ≠ some '=') :
    Reads ⟨target, m.span, m.tail, m.candidates⟩ token
      (target ++ rest ++ (m.span ++ m.tail)) rest.trim := by
  have hparse := Choice.parseWith?_text_eq_some_iff.mpr
    ⟨compiles, Choice.parse?_eq_some_iff.mpr ⟨target ++ rest, m, hleft.find?_eq, hne, rfl⟩⟩
  exact ⟨_, _, hparse, Assignment.ofHead?_target_append htarget hrest, rfl, rfl,
    Text.dropBytes?_behind (target ++ rest) m.span m.tail⟩

/-- A marker that is leftmost behind a written value reads it. -/
theorem reads_write_of_leftmost [PatternEngine]
    {token : CommentToken} {target value : Text} {m : Marker}
    (compiles : Marker.compiles token.text)
    (hleft : Marker.Leftmost token (target ++ ([' '] ++ value ++ [' '])) m)
    (hne : m.candidates ≠ []) (htarget : Assignment.IsTarget target)
    (htrim : value.trim = value) :
    let frame : Frame := ⟨target, m.span, m.tail, m.candidates⟩
    frame.Reads token (frame.write value) value := by
  have hreads := reads_of_leftmost compiles hleft hne htarget (by simp)
  rw [Text.trim_surround Text.AllBlank.space Text.AllBlank.space, htrim] at hreads
  simpa [Frame.write] using hreads

/-- A trimmed value without the tag, written into the frame of a line, is read back with
the same frame. A token that begins with the tag must not end the written text. -/
theorem Reads.write_of_unbroken [PatternEngine]
    {frame : Frame} {token : CommentToken} {line w value : Text}
    (h : frame.Reads token line w) (unbroken : Marker.UnbrokenToken token.text)
    (htrim : value.trim = value) (htag : ¬ Marker.tag <:+: value)
    (hends : Marker.tag <+: token.text → ∀ gap, Text.AllBlank gap →
      ¬ token.text ++ gap <:+ frame.target ++ ' ' :: value) :
    frame.Reads token (frame.write value) value := by
  obtain ⟨rest, m, hleft, hframe, hne, -, htarget, -⟩ := h.exists_leftmost
  generalize frame.target = target at hleft hframe htarget hends
  subst hframe
  have hspaced : ¬ Marker.tag <:+: ' ' :: value := by
    intro hin
    have hin : Marker.tag <:+: [] ++ ' ' :: value := hin
    rcases Text.infix_append_cons hin
      (Marker.not_mem_tag_of_blank (by decide)) with hnil | hvalue
    · cases List.infix_nil.mp hnil
    · exact htag hvalue
  have hleft' : Marker.Leftmost token (target ++ ([' '] ++ value ++ [' '])) m := by
    obtain ⟨front, rfl⟩ := htarget.eq_append
    rw [List.append_assoc, List.singleton_append] at hleft hends ⊢
    exact hleft.replace unbroken (by decide) (by decide) (by decide) hspaced hends
  exact reads_write_of_leftmost h.compiles hleft' hne htarget htrim

/-- **Reading back.** For a plain token, every trimmed value without the tag is read back. -/
theorem Reads.write [PatternEngine] {frame : Frame} {token : CommentToken} {line w value : Text}
    (h : frame.Reads token line w) (plain : Marker.PlainToken token.text)
    (htrim : value.trim = value) (htag : ¬ Marker.tag <:+: value) :
    frame.Reads token (frame.write value) value :=
  h.write_of_unbroken plain.unbroken htrim htag
    fun hbegins => absurd hbegins.isInfix plain.no_tag

end Frame

/-! ## One edit of a line -/

/-- The name of an annotation is a function of its target. -/
theorem Choice.name?_congr {a a' : Choice} {asg asg' : Assignment}
    (hasg : a.assignment = some asg) (hasg' : a'.assignment = some asg')
    (htarget : asg'.target = asg.target) : a'.name? = a.name? := by
  simp only [name?, hasg, hasg', htarget, Option.bind_eq_bind, Option.bind_some]

/-- **Setting a value and reading it back.** For a plain token, a line whose
value has been set parses to the set value, trimmed, and otherwise as before. -/
theorem parseWith?_setValue [PatternEngine]
    {token line value : Text} {a : Choice} {asg : Assignment}
    (plain : Marker.PlainToken token) (htag : ¬ Marker.tag <:+: value.trim)
    (hparse : Choice.parseWith? token line = some a) (hasg : a.assignment = some asg) :
    ∃ a' asg' tail, Choice.parseWith? token (Line.setValue token value line) = some a' ∧
      a'.assignment = some asg' ∧ asg'.target = asg.target ∧ a'.name? = a.name? ∧
      a'.candidates = a.candidates ∧ a'.marker = a.marker ∧ a'.value? = some value.trim ∧
      line.dropBytes? a.markerRange.stop = some tail ∧
      (Line.setValue token value line).dropBytes? a'.markerRange.stop = some tail := by
  obtain ⟨token, before, after, tail, rfl, parts, hreads⟩ := Frame.exists_reads hparse hasg
  obtain ⟨a', start, hparse', hasg', hcand, hmarker, htail⟩ :=
    hreads.write plain (Text.trim_trim value) htag
  rw [hreads.setValue_eq]
  refine ⟨a', _, tail, hparse', hasg', rfl, Choice.name?_congr hasg hasg' rfl, hcand, hmarker,
    ?_, parts.dropBytes?, htail⟩
  rw [Choice.value?, hasg']
  rfl

section

open scoped PatternEngine

/-- The sign that ends the target, the token and the value may all be `=`. -/
theorem parseWith?_setValue_equals_sign :
    ∃ a' asg' tail,
      Choice.parseWith? "=".toList
        (Line.setValue "=".toList " = ".toList "x= 0 =[CB]:1|0||".toList) = some a' ∧
      a'.assignment = some asg' ∧ asg'.target = "x=".toList ∧ a'.name? = some "x".toList ∧
      a'.candidates = ["1".toList, "0".toList] ∧ a'.marker = "=[CB]:1|0".toList ∧
      a'.value? = some "=".toList ∧
      Text.dropBytes? 14 "x= 0 =[CB]:1|0||".toList = some tail ∧
      Text.dropBytes? a'.markerRange.stop
        (Line.setValue "=".toList " = ".toList "x= 0 =[CB]:1|0||".toList) = some tail := by
  have plain : Marker.PlainToken "=".toList := by decide
  have htag : ¬ Marker.tag <:+: Text.trim " = ".toList := by decide
  have hparse : Choice.parseWith? "=".toList "x= 0 =[CB]:1|0||".toList =
      some ⟨⟨"=".toList, by decide⟩, some ⟨"x=".toList, "0".toList, 3⟩,
        ["1".toList, "0".toList], "=[CB]:1|0".toList, 5⟩ := rfl
  exact parseWith?_setValue plain htag hparse rfl

end

/-- A line without an annotated assignment has nothing to write. -/
theorem edits_eq_self [PatternEngine] {token line : Text}
    (h : ∀ a, Choice.parseWith? token line = some a → a.assignment = none) (value : Text) :
    Line.setValue token value line = line ∧ Line.advance token line = line := by
  cases hparse : Choice.parseWith? token line with
  | none => simp [Line.setValue, Line.setValue?, Line.advance, Line.advance?, hparse]
  | some a =>
      simp [Line.setValue, Line.setValue?, Line.advance, Line.advance?, hparse,
        Choice.withValue?, h a hparse]

/-- **Only the value and the white space around it change.** A line with an
annotated assignment is the target, white space, the value, white space, the
marker and the tail; an edit writes the new value between single spaces in place
of the middle. Every other line is kept. No token is excluded. -/
theorem edited_line_parts [PatternEngine] (token line value : Text) :
    (∀ a asg, Choice.parseWith? token line = some a → a.assignment = some asg →
      ∃ before after tail next, a.Parts asg line before after tail ∧
        a.nextValue? = some next ∧
        Line.setValue token value line =
          asg.target ++ [' '] ++ value.trim ++ [' '] ++ a.marker ++ tail ∧
        Line.advance token line =
          asg.target ++ [' '] ++ next ++ [' '] ++ a.marker ++ tail) ∧
    ((∀ a, Choice.parseWith? token line = some a → a.assignment = none) →
      Line.setValue token value line = line ∧ Line.advance token line = line) := by
  refine ⟨?_, fun h => edits_eq_self h value⟩
  intro a asg hparse hasg
  obtain ⟨token, before, after, tail, rfl, parts, hreads⟩ := Frame.exists_reads hparse hasg
  obtain ⟨next, -, hnext, hadvance⟩ := hreads.advance_eq
  refine ⟨before, after, tail, next, parts, ?_, hreads.setValue_eq value, hadvance⟩
  rw [Choice.nextValue?, Choice.value?, hasg]
  exact hnext

section

open scoped PatternEngine

/-- A token of white space and signs, a line feed in front of the value, and text
behind the list. -/
theorem edited_line_parts_of_spaced_token :
    ∃ a asg before after tail next,
      Choice.parseWith? " =".toList "é==\n1 \u2003 =[CB]: 1|0||".toList = some a ∧
      a.assignment = some asg ∧
      a.Parts asg "é==\n1 \u2003 =[CB]: 1|0||".toList before after tail ∧
      a.nextValue? = some next ∧
      Line.setValue " =".toList " 7 ".toList "é==\n1 \u2003 =[CB]: 1|0||".toList =
        asg.target ++ [' '] ++ Text.trim " 7 ".toList ++ [' '] ++ a.marker ++ tail ∧
      Line.advance " =".toList "é==\n1 \u2003 =[CB]: 1|0||".toList =
        asg.target ++ [' '] ++ next ++ [' '] ++ a.marker ++ tail := by
  have hparse : Choice.parseWith? " =".toList "é==\n1 \u2003 =[CB]: 1|0||".toList =
      some ⟨⟨" =".toList, by decide⟩, some ⟨"é==".toList, "1".toList, 5⟩,
        ["1".toList, "0".toList], " =[CB]: 1|0".toList, 10⟩ := rfl
  obtain ⟨before, after, tail, next, h⟩ :=
    (edited_line_parts " =".toList "é==\n1 \u2003 =[CB]: 1|0||".toList " 7 ".toList).1
      _ _ hparse rfl
  exact ⟨_, _, before, after, tail, next, hparse, rfl, h⟩

end

end InlineChoice
