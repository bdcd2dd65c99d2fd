import InlineChoice.Proofs.Edit
import InlineChoice.Proofs.Grammar

/-!
# The written form of an annotation

An annotation is written with single spaces around its parts:

    <name> = <value> <token> [CB]: <candidate>|<candidate>|...

The parts are almost free texts. A value may hold `=` signs, bars or the token, and a
candidate may hold even the tag. `parseWith?_line` says that the parser reads the same
parts off the written line nevertheless.

Three choices of the parser have to fall on the written signs. The leftmost marker is
the written one, because a marker in front of it would need a tag of its own
(`Marker.Leftmost.of_tagFree`); the first `=` sign is the written one, because the name
holds none; and the list ends where the line ends, because each candidate is a segment
(`Written.take_list`).
-/

namespace InlineChoice

/-- Behind a text without the tag and a white-space character, a marker of a plain token
is the leftmost one. -/
theorem Marker.Leftmost.of_tagFree {token : CommentToken} (plain : PlainToken token.text)
    {front : Text} {c : Char} {m : Marker} (hm : readAt? token (m.span ++ m.tail) = some m)
    (hc : Text.isBlank c = true) (hfront : ¬ tag <:+: front) :
    Leftmost token (front ++ [c]) m := by
  refine ⟨hm, fun place hplace hne => ?_⟩
  obtain ⟨before, hbefore⟩ := hplace
  obtain ⟨inner, last, rfl⟩ : ∃ inner last, place = inner ++ [last] :=
    (List.eq_nil_or_concat' place).resolve_left hne
  have hends : before ++ inner ++ [last] = front ++ [c] := by
    rw [List.append_assoc]
    exact hbefore
  obtain ⟨rfl, hlast⟩ := List.append_inj' hends rfl
  obtain rfl : last = c := by simpa using hlast
  rw [List.append_assoc, List.singleton_append]
  by_contra hsome
  rcases tag_before_blank plain.unbroken hm hc (Option.isSome_iff_ne_none.mpr hsome) with
    ⟨gap, rest, -, rfl, -⟩ | ⟨hbegins, -⟩
  · exact hfront ⟨before ++ (token.text ++ gap), rest, by simp⟩
  · exact plain.no_tag hbegins.isInfix

/-! ## Written parts -/

/-- The parts of an annotation that a writer chooses. -/
structure Written where
  name : Text
  value : Text
  candidates : List Text

namespace Written

/-- The name and the sign of the assignment. -/
def target (w : Written) : Text :=
  w.name ++ [' ', '=']

/-- The text in front of the marker. -/
def head (w : Written) : Text :=
  w.target ++ ([' '] ++ w.value ++ [' '])

/-- The candidates with bars between them. -/
def list (w : Written) : Text :=
  Text.join ['|'] w.candidates

/-- The marker that declares the candidates; it ends the line. -/
def marker (w : Written) (token : Text) : Marker where
  span := token ++ [' '] ++ Marker.tag ++ [' '] ++ w.list
  list := w.list
  tail := []

/-- The line that a writer writes. -/
def line (w : Written) (token : Text) : Text :=
  w.name ++ " = ".toList ++ w.value ++ [' '] ++ token ++ " [CB]: ".toList ++ w.list

theorem line_eq (w : Written) (token : Text) :
    w.line token = w.head ++ (w.marker token).span := by
  simp [line, head, target, marker, Marker.tag]

/-- A text that can stand in a list as a candidate. -/
structure IsCandidate (c : Text) : Prop where
  ne_nil : c ≠ []
  trim_eq : c.trim = c
  no_bar : '|' ∉ c
  no_feed : '\n' ∉ c

/-- The conditions under which the parts can be told apart. -/
structure Readable (w : Written) : Prop where
  name_no_sign : '=' ∉ w.name
  name_no_tag : ¬ Marker.tag <:+: w.name
  value_trim : w.value.trim = w.value
  value_no_tag : ¬ Marker.tag <:+: w.value
  candidates_ne_nil : w.candidates ≠ []
  isCandidate : ∀ c ∈ w.candidates, IsCandidate c

theorem IsCandidate.isSegment {c : Text} (h : IsCandidate c) : Grammar.IsSegment c := by
  refine ⟨h.ne_nil, fun d hd => ⟨?_, ?_⟩⟩
  · rintro rfl
    exact h.no_bar hd
  · rintro rfl
    exact h.no_feed hd

namespace Readable

variable {w : Written} (h : w.Readable)

include h

/-! ## The list -/

/-- A written list begins with a character that no reader skips. -/
theorem exists_cons_list : ∃ c more, w.list = c :: more ∧ Text.isBlank c = false ∧ c ≠ '|' := by
  have hsegment : ∀ s ∈ w.candidates, Grammar.IsSegment s :=
    fun s hs => (h.isCandidate s hs).isSegment
  obtain ⟨c, more, hlist, hbar, -⟩ := Grammar.exists_cons_join h.candidates_ne_nil hsegment
  refine ⟨c, more, hlist, ?_, hbar⟩
  obtain ⟨first, others, hfirst⟩ := List.exists_cons_of_ne_nil h.candidates_ne_nil
  have hmem : first ∈ w.candidates := by simp [hfirst]
  have hhead : first.head? = some c := by
    obtain ⟨d, rest, rfl⟩ := List.exists_cons_of_ne_nil (h.isCandidate first hmem).ne_nil
    rw [hfirst] at hlist
    cases others with
    | nil =>
        rw [Text.join, List.intercalate_singleton] at hlist
        simpa using congrArg List.head? hlist
    | cons next others =>
        rw [Grammar.join_cons_cons] at hlist
        simpa using congrArg List.head? hlist
  exact Text.not_blank_of_head (h.isCandidate first hmem).trim_eq hhead

/-- The whole list is taken. -/
theorem take_list : CandidateList.take w.list = (w.list, []) := by
  have hsegment : ∀ s ∈ w.candidates, Grammar.IsSegment s :=
    fun s hs => (h.isCandidate s hs).isSegment
  have htake := Grammar.take_join_append h.candidates_ne_nil hsegment []
  simpa [list, CandidateList.take] using htake

/-- The candidates are the pieces of the list. -/
theorem candidates_list : CandidateList.candidates w.list = w.candidates := by
  have hbar : ∀ c ∈ w.candidates, '|' ∉ c := fun c hc => (h.isCandidate c hc).no_bar
  have htrim : w.candidates.map Text.trim = w.candidates := by
    rw [List.map_congr_left fun c hc => (h.isCandidate c hc).trim_eq, List.map_id']
  rw [CandidateList.candidates, list, Text.pieces_join h.candidates_ne_nil hbar, htrim,
    List.filter_eq_self]
  intro c hc
  exact decide_eq_true (h.isCandidate c hc).ne_nil

/-! ## The marker -/

/-- A written marker is read where it stands. -/
theorem readAt?_marker (token : CommentToken) :
    Marker.readAt? token (w.marker token.text).span = some (w.marker token.text) := by
  have hbegins : Grammar.ListBegins [' '] w.list := by
    obtain ⟨c, more, hlist, hblank, hbar⟩ := h.exists_cons_list
    rw [hlist]
    exact Grammar.ListBegins.atText Text.AllBlank.space hblank hbar
  refine Marker.readAt?_eq_some_iff.mpr ⟨[' '], [' '], w.list, Text.AllBlank.space, ?_,
    Grammar.listStart?_eq_some_iff.mpr ⟨rfl, hbegins⟩, ?_⟩
  · simp only [marker, List.append_assoc]
  · simp only [Marker.ofParts, h.take_list, marker]

/-- There is no tag in front of the space before the marker. -/
theorem no_tag_before : ¬ Marker.tag <:+: w.target ++ [' '] ++ w.value := by
  have hspace : ' ' ∉ Marker.tag := Marker.not_mem_tag_of_blank (by decide)
  intro hin
  have hin : Marker.tag <:+: w.name ++ ' ' :: (['='] ++ ' ' :: w.value) := by
    simpa [target] using hin
  rcases Text.infix_append_cons hin hspace with hname | hin
  · exact h.name_no_tag hname
  rcases Text.infix_append_cons hin hspace with hsign | hvalue
  · revert hsign
    decide
  · exact h.value_no_tag hvalue

/-- The written marker is the leftmost one of the line. -/
theorem find?_line {token : CommentToken} (plain : Marker.PlainToken token.text) :
    Marker.find? token (w.line token.text) = some (w.head, w.marker token.text) := by
  have hline : (w.marker token.text).span ++ (w.marker token.text).tail =
      (w.marker token.text).span := List.append_nil _
  have hread : Marker.readAt? token ((w.marker token.text).span ++ (w.marker token.text).tail) =
      some (w.marker token.text) := by
    rw [hline, h.readAt?_marker]
  have hleft := Marker.Leftmost.of_tagFree plain hread (show Text.isBlank ' ' = true by decide)
    h.no_tag_before
  have hfind := hleft.find?_eq
  rw [hline] at hfind
  have hhead : w.head = w.target ++ [' '] ++ w.value ++ [' '] := by
    simp only [head, List.append_assoc]
  rw [line_eq, hhead, hfind]

/-! ## The assignment -/

theorem isTarget : Assignment.IsTarget w.target := by
  refine ⟨w.name ++ [' '], ['='], ?_, ?_, by simp, by simp⟩
  · rw [target, List.append_assoc, List.singleton_append]
  · simpa using h.name_no_sign

theorem ofHead?_head :
    ∃ start, Assignment.ofHead? w.head = some ⟨w.target, w.value, start⟩ := by
  have hrest : ([' '] ++ w.value ++ [' ']).head? ≠ some '=' := by simp
  have hread := Assignment.ofHead?_target_append h.isTarget hrest
  rw [Text.trim_surround Text.AllBlank.space Text.AllBlank.space, h.value_trim] at hread
  exact ⟨_, hread⟩

end Readable

/-- The name of a written target is the written name, trimmed. -/
theorem trim_dropEndWhile_target (w : Written) :
    Text.trim (w.target.dropEndWhile (· = '=')) = w.name.trim := by
  have htarget : w.target.dropEndWhile (· = '=') = w.name ++ [' '] := by
    have hsign : ∀ c ∈ ['='], decide (c = '=') = true := by simp
    exact Text.dropEndWhile_concat_run w.name (by decide) hsign
  rw [htarget, Text.trim_append_of_blank w.name Text.AllBlank.space]

/-- **Reading undoes writing.** For a plain token whose pattern compiles, the parts of a
readable annotation are read off the line in which they are written, and the marker ends
where the line ends. -/
theorem parseWith?_line [PatternEngine] {w : Written} {token : Text}
    (plain : Marker.PlainToken token) (compiles : Marker.compiles token) (h : w.Readable) :
    ∃ a asg, Choice.parseWith? token (w.line token) = some a ∧ a.assignment = some asg ∧
      asg.target = w.name ++ " =".toList ∧ asg.value = w.value ∧
      a.candidates = w.candidates ∧
      a.markerRange.stop = Text.byteSize (w.line token) ∧
      a.name? = if w.name.trim = [] then none else some w.name.trim := by
  obtain ⟨token, rfl⟩ : ∃ t : CommentToken, t.text = token := ⟨⟨token, plain.ne_nil⟩, rfl⟩
  obtain ⟨start, hasg⟩ := h.ofHead?_head
  have hcandidates : (w.marker token.text).candidates = w.candidates := h.candidates_list
  have hparse := Choice.parse?_eq_some_iff.mpr ⟨w.head, _, h.find?_line plain,
    by rw [hcandidates]; exact h.candidates_ne_nil, rfl⟩
  refine ⟨_, ⟨w.target, w.value, start⟩,
    Choice.parseWith?_text_eq_some_iff.mpr ⟨compiles, hparse⟩, hasg, rfl, rfl, hcandidates,
    ?_, ?_⟩
  · rw [Choice.markerRange, line_eq, Text.byteSize_append]
  · simp only [Choice.name?, hasg, Option.bind_eq_bind, Option.bind_some,
      trim_dropEndWhile_target]

section

open scoped PatternEngine

/-- The value begins with an `=` sign and holds the token and a bar; the candidates hold
the token, the tag and white space. -/
theorem parseWith?_line_of_signs :
    let w : Written :=
      { name := "\tgröße # ".toList
        value := "== # |".toList
        candidates := ["# [CB]: x=".toList, "[CB]:".toList, "a \u2003 b".toList] }
    Marker.PlainToken "#".toList ∧ Marker.compiles "#".toList ∧ w.Readable ∧
    ∃ a asg, Choice.parseWith? "#".toList (w.line "#".toList) = some a ∧
      a.assignment = some asg ∧ asg.target = "\tgröße #  =".toList ∧
      asg.value = "== # |".toList ∧
      a.candidates = ["# [CB]: x=".toList, "[CB]:".toList, "a \u2003 b".toList] ∧
      a.markerRange.stop = Text.byteSize (w.line "#".toList) ∧
      a.name? = some "größe #".toList := by
  intro w
  have plain : Marker.PlainToken "#".toList := by decide
  have hcandidate : ∀ c ∈ w.candidates, IsCandidate c := by
    simp only [w, List.mem_cons, List.not_mem_nil, or_false, forall_eq_or_imp, forall_eq]
    exact ⟨⟨by decide, rfl, by decide, by decide⟩, ⟨by decide, rfl, by decide, by decide⟩,
      ⟨by decide, rfl, by decide, by decide⟩⟩
  have hreadable : w.Readable :=
    ⟨by decide, by decide, rfl, by decide, by decide, hcandidate⟩
  exact ⟨plain, rfl, hreadable, parseWith?_line plain rfl hreadable⟩

end

end Written

end InlineChoice
