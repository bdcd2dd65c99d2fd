import InlineChoice.Proofs.Edit
import InlineChoice.Proofs.Grammar

/-!
# When a written value is read back

An edit writes its value as it is: there is no way to escape a tag. So a value that holds
the text of a marker may take the place of the marker of its line, since the leftmost
marker is the one that counts. `Frame.Reads.readsBack_write_iff` says that this is the
only way to lose a value: it is read back, with the candidates of the line, if and only if
no marker stands in front of the old one in the written line.

That condition speaks of the whole line, because a marker may be made of the end of the
target and the beginning of the value, or of the value and the token that follows it. A
value without the tag always meets it (`Frame.Reads.write_of_tagFree`).
-/

namespace InlineChoice

/-- A marker of the token stands in the line in front of a byte position. -/
def Grammar.MarkerBefore (token line : Text) (position : Nat) : Prop :=
  ∃ head gap blanks body, MarkerAt token line head gap blanks body ∧ head.byteSize < position

/-- The annotation of the line declares the candidates and assigns the value. -/
def Line.ReadsBack [PatternEngine]
    (token line : Text) (candidates : List Text) (value : Text) : Prop :=
  ∃ a, Choice.parseWith? token line = some a ∧ a.candidates = candidates ∧
    a.value? = some value

/-- An unbroken token that ends a written text, up to white space, ends the value. -/
theorem Marker.UnbrokenToken.suffix_of_blank {token value gap kept : Text}
    (unbroken : UnbrokenToken token) (htrim : value.trim = value) (hne : value ≠ [])
    (hgap : Text.AllBlank gap) (h : token ++ gap <:+ kept ++ ' ' :: value) :
    token <:+ value := by
  obtain ⟨before, h⟩ := h
  obtain ⟨start, last, rfl⟩ : ∃ start last, value = start ++ [last] :=
    (List.eq_nil_or_concat' value).resolve_left hne
  have hlast := Text.not_blank_of_getLast htrim List.getLast?_concat
  obtain rfl : gap = [] := by
    rcases List.eq_nil_or_concat' gap with hnil | ⟨gap, c, rfl⟩
    · exact hnil
    · have hends : before ++ token ++ gap ++ [c] = kept ++ ' ' :: start ++ [last] := by
        simpa using h
      obtain rfl : c = last := by simpa using (List.append_inj' hends rfl).2
      rw [hgap c (by simp)] at hlast
      cases hlast
  have hspace : ' ' ∉ token := by
    intro hmem
    cases unbroken.not_blank ' ' hmem
  have hword : before ++ token ++ [] = kept ++ ' ' :: (start ++ [last]) := by simpa using h
  rcases Text.append_eq_append_cons hword hspace with ⟨rest, -, hrest⟩ | ⟨rest, -, hrest⟩
  · simp at hrest
  · exact ⟨rest, by simpa using hrest.symm⟩

/-- If a head that goes on with more text up to the end of a written value has this value
already, then only the space behind the value is missing. -/
theorem Assignment.eq_space_of_value_eq {target value head more : Text} {asg : Assignment}
    (htarget : IsTarget target) (hcut : head ++ more = target ++ [' '] ++ value ++ [' '])
    (hasg : ofHead? head = some asg) (hvalue : asg.value = value) (hne : value ≠ [])
    (hmore : more ≠ []) : more = [' '] := by
  obtain ⟨rest, rfl, htarget', hrest, htrim, -⟩ := exists_target_of_ofHead? hasg
  obtain ⟨c, others, rfl⟩ : ∃ c others, rest = c :: others := by
    cases rest with
    | nil => exact absurd (hvalue.symm.trans htrim) hne
    | cons c others => exact ⟨c, others, rfl⟩
  -- Both cuts have the same target, since the first run of signs ends inside the head.
  have hrest' : (c :: others ++ more).head? ≠ some '=' := by simpa using hrest
  have hspace : ([' '] ++ value ++ [' ']).head? ≠ some '=' := by simp
  have hwhole := ofHead?_target_append htarget' hrest'
  have hwritten := ofHead?_target_append htarget hspace
  rw [← List.append_assoc, hcut, List.append_assoc, List.append_assoc target] at hwhole
  have hsame : asg.target = target :=
    congrArg Assignment.target (Option.some.inj (hwhole.symm.trans hwritten))
  rw [hsame, List.append_assoc, List.append_assoc, List.append_assoc] at hcut
  obtain ⟨rfl, hbehind⟩ : c = ' ' ∧ others ++ more = value ++ [' '] := by simpa using hcut
  have hvalue : value = Text.trim others := by
    rw [← hvalue, htrim]
    simpa using Text.trim_surround Text.AllBlank.space Text.AllBlank.nil others
  have hshort : value.length ≤ others.length := hvalue ▸ Text.length_trim_le others
  have hlength := congrArg List.length hbehind
  rw [List.length_append, List.length_append, List.length_singleton] at hlength
  have hpos := List.length_pos_of_ne_nil hmore
  exact (List.append_inj' hbehind (by rw [List.length_singleton]; omega)).2

namespace Frame

/-- The text in front of the marker, once a value has been written. -/
def front (frame : Frame) (value : Text) : Text :=
  frame.target ++ [' '] ++ value ++ [' ']

theorem write_eq_front (frame : Frame) (value : Text) :
    frame.write value = frame.front value ++ (frame.marker ++ frame.tail) := by
  rw [write, front, List.append_assoc _ frame.marker]

namespace Reads

variable [PatternEngine] {frame : Frame} {token : CommentToken} {line w value : Text}
  (h : frame.Reads token line w)

include h

theorem readsBack :
    Line.ReadsBack token.text line frame.candidates w := by
  obtain ⟨a, hparse, hcand, hvalue, -⟩ := h.withValue?_eq
  exact ⟨a, hparse, hcand, hvalue⟩

/-- Where no marker stands in front of the old one, the value is read back. -/
theorem write_of_not_markerBefore (htrim : value.trim = value)
    (hnone : ¬ Grammar.MarkerBefore token.text (frame.write value) (frame.front value).byteSize) :
    frame.Reads token (frame.write value) value := by
  have compiles := h.compiles
  obtain ⟨rest, m, hleft, hframe, hne, -, htarget, -⟩ := h.exists_leftmost
  generalize frame.target = target at hframe htarget
  subst hframe
  rw [write_eq_front] at hnone
  have hfront : Frame.front ⟨target, m.span, m.tail, m.candidates⟩ value =
      target ++ ([' '] ++ value ++ [' ']) := by
    simp [front]
  rw [hfront] at hnone
  refine reads_write_of_leftmost compiles ⟨hleft.stands, fun place hplace hplace_ne => ?_⟩
    hne htarget htrim
  obtain ⟨before, hbefore⟩ := hplace
  rw [← hbefore, List.append_assoc, Text.byteSize_append] at hnone
  by_contra hsome
  obtain ⟨m', hread⟩ := Option.ne_none_iff_exists'.mp hsome
  obtain ⟨gap, blanks, body, hat, -⟩ := Grammar.exists_markerAt hread before
  exact hnone ⟨before, gap, blanks, body, hat,
    Nat.lt_add_of_pos_right (Text.byteSize_pos hplace_ne)⟩

/-- A marker in front of the old one takes its place, and then the value is another one. -/
theorem not_readsBack_of_markerBefore (unbroken : Marker.UnbrokenToken token.text)
    (hne : value ≠ [])
    (hbefore : Grammar.MarkerBefore token.text (frame.write value) (frame.front value).byteSize)
    (candidates : List Text) :
    ¬ Line.ReadsBack token.text (frame.write value) candidates value := by
  rintro ⟨a, hparse, -, hvalue⟩
  obtain ⟨-, hparse⟩ := Choice.parseWith?_text_eq_some_iff.mp hparse
  obtain ⟨head, m, hfind, -, rfl⟩ := Choice.parse?_eq_some_iff.mp hparse
  obtain ⟨asg, hasg, hvalue⟩ := Option.map_eq_some_iff.mp hvalue
  -- The leftmost marker is not the old one, so the line is cut in front of it.
  obtain ⟨gap, blanks, body, hleftmost, -⟩ := Grammar.find?_eq_some_iff_leftmostAt.mp hfind
  obtain ⟨head', gap', blanks', body', hat, hlt⟩ := hbefore
  have hle := hleftmost.leftmost head' gap' blanks' body' hat
  obtain ⟨rest, hline, hread⟩ := hleftmost.readAt?
  rw [write_eq_front] at hline
  obtain ⟨more, hcut, rfl⟩ : ∃ more, frame.front value = head ++ more ∧
      rest = more ++ (frame.marker ++ frame.tail) := by
    rcases List.append_eq_append_iff.mp hline with ⟨more, rfl, -⟩ | ⟨more, hcut, hrest⟩
    · rw [Text.byteSize_append] at hle
      omega
    · exact ⟨more, hcut, hrest⟩
  have hmore : more ≠ [] := by
    rintro rfl
    rw [hcut, List.append_nil] at hlt
    omega
  obtain ⟨-, -, -, -, -, -, htarget, -⟩ := h.exists_leftmost
  obtain rfl := Assignment.eq_space_of_value_eq htarget hcut.symm hasg hvalue hne hmore
  have hblank := Marker.not_blank_of_readAt? unbroken (Option.isSome_of_eq_some hread)
  cases hblank

/-- A value without the tag is read back, if it is not empty. -/
theorem write_of_tagFree (unbroken : Marker.UnbrokenToken token.text) (hne : value ≠ [])
    (htrim : value.trim = value) (htag : ¬ Marker.tag <:+: value) :
    frame.Reads token (frame.write value) value := by
  refine h.write_of_unbroken unbroken htrim htag fun hbegins gap hgap hends => htag ?_
  exact hbegins.isInfix.trans (unbroken.suffix_of_blank htrim hne hgap hends).isInfix

/-- **Which values are read back.** A candidate that has been written is read back, with
the candidates of the line, if and only if no marker stands in front of the old one. -/
theorem readsBack_write_iff (unbroken : Marker.UnbrokenToken token.text) (hne : value ≠ [])
    (htrim : value.trim = value) :
    Line.ReadsBack token.text (frame.write value) frame.candidates value ↔
      ¬ Grammar.MarkerBefore token.text (frame.write value) (frame.front value).byteSize := by
  constructor
  · intro hback hbefore
    exact h.not_readsBack_of_markerBefore unbroken hne hbefore frame.candidates hback
  · exact fun hnone => (h.write_of_not_markerBefore htrim hnone).readsBack

end Reads

end Frame

end InlineChoice
