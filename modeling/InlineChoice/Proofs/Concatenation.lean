import InlineChoice.Proofs.Scan

/-!
# Texts put together

A text that is empty or ends with a line feed can stand in front of any other text, and
the two know nothing of each other. They are cut into lines apart
(`TerminatedLine.ofText_append`), because what has been cut so far is ended and the cut
looks ahead by no more than a terminator. A scan and an edit of a document go line by
line, so what they do to the whole is what they do to the two parts.

A marker may hold a line feed where it may hold white space. No line does
(`Document.feedFree_of_mem_scan`), so a token at the end of one line and a tag at the
beginning of the next one are no marker.
-/

namespace InlineChoice

open TerminatedLine (WellCut)

/-! ## Lines -/

namespace TerminatedLine

/-- Lines that all have a terminator can stand in front of other lines. -/
theorem WellCut.append {lines others : List TerminatedLine} (h : WellCut lines)
    (hothers : WellCut others) (hended : Terminator.endOfText ∉ lines.map (·.terminator)) :
    WellCut (lines ++ others) := by
  induction lines with
  | nil => exact hothers
  | cons line lines ih =>
      obtain ⟨hproper, -, hrest⟩ := wellCut_cons_iff.mp h
      obtain ⟨hline, hlines⟩ : line.terminator ≠ .endOfText ∧
          Terminator.endOfText ∉ lines.map (·.terminator) := by
        simpa [eq_comm] using hended
      exact wellCut_cons_iff.mpr ⟨hproper, fun _ => hline, ih hrest hlines⟩

/-- **Cutting goes text by text**, if the first one is empty or ends with a line feed. -/
theorem ofText_append {front : Text} (hended : front = [] ∨ front.getLast? = some '\n')
    (back : Text) : ofText (front ++ back) = ofText front ++ ofText back := by
  have hnone : Terminator.endOfText ∉ (ofText front).map (·.terminator) := by
    rw [(wellCut_ofText front).endOfText_mem_iff, toText_ofText]
    exact fun h => h hended
  have hcut : WellCut (ofText front ++ ofText back) :=
    (wellCut_ofText front).append (wellCut_ofText back) hnone
  have htext : toText (ofText front ++ ofText back) = front ++ back := by
    rw [toText_append, toText_ofText, toText_ofText]
  rw [← htext, ofText_toText hcut]

end TerminatedLine

namespace Document

/-! ## Scans -/

theorem feedFree_of_mem_scan [PatternEngine]
    {doc : Document} (h : WellCut doc.lines) {syn : CommentSyntax}
    {found : AnnotatedLine} (hfound : found ∈ doc.scan syn) : '\n' ∉ found.text :=
  feedFree_of_line? h (mem_scan_iff.mp hfound).1

end Document

/-- The line that a scan finds, a number of lines further down. -/
def AnnotatedLine.below (found : AnnotatedLine) (count : Nat) : AnnotatedLine :=
  { found with index := found.index + count }

/-- The parts of an annotation, the assignment first, stand in a line and in order. -/
def Choice.LiesIn (a : Choice) (line : Text) : Prop :=
  ∃ head tail, line = head ++ a.marker ++ tail ∧ a.markerStart = head.byteSize ∧
    ∀ asg, a.assignment = some asg →
      ∃ before after, head = asg.target ++ before ++ asg.value ++ after

/-- Every annotation lies in the line from which it has been read. -/
theorem Choice.liesIn_of_parseWith? [PatternEngine] {token line : Text} {a : Choice}
    (h : parseWith? token line = some a) : a.LiesIn line := by
  obtain ⟨t, -, hparse⟩ := exists_token_of_parseWith? h
  obtain ⟨head, m, hfind, -, rfl⟩ := parse?_eq_some_iff.mp hparse
  obtain ⟨hline, -⟩ := Marker.find?_eq_some_iff.mp hfind
  refine ⟨head, m.tail, by simp [hline], rfl, ?_⟩
  intro asg hasg
  obtain ⟨rest, hhead, -, -, hvalue, -⟩ := Assignment.exists_target_of_ofHead? hasg
  obtain ⟨after, hrest, -, -⟩ := Text.exists_trim rest
  refine ⟨rest.takeWhile Text.isBlank, after, ?_⟩
  rw [hvalue, List.append_assoc, List.append_assoc, ← List.append_assoc (List.takeWhile _ _),
    ← hrest]
  exact hhead

namespace Document

section Append

variable {whole first second : Document} (hlines : whole.lines = first.lines ++ second.lines)

include hlines

theorem line?_append_left {index : Nat} (h : index < first.lineCount) :
    whole.line? index = first.line? index := by
  rw [line?, hlines, List.getElem?_append_left h]
  rfl

theorem line?_append_right {index : Nat} (h : first.lineCount ≤ index) :
    whole.line? index = second.line? (index - first.lineCount) := by
  rw [line?, hlines, List.getElem?_append_right h]
  rfl

/-- A scan goes through the lines one by one. -/
theorem scan_append [PatternEngine] (syn : CommentSyntax) (hfirst : first.language = whole.language)
    (hsecond : second.language = whole.language) :
    whole.scan syn =
      first.scan syn ++ (second.scan syn).map (·.below first.lineCount) := by
  have hbehind : second.lines.zipIdx first.lines.length =
      second.lines.zipIdx.map (Prod.map id (first.lines.length + ·)) :=
    List.zipIdx_eq_map_add
  rw [scan_eq, scan_eq, scan_eq, hlines, hfirst, hsecond, List.zipIdx_append,
    List.filterMap_append, List.map_filterMap, Nat.zero_add, hbehind, List.filterMap_map]
  congr 2
  funext ⟨line, index⟩
  simp [Function.comp_def, AnnotatedLine.below, lineCount, Nat.add_comm]

/-! ## Edits -/

theorem replaceLine?_append_left {index : Nat} (h : index < first.lineCount) (content : Text) :
    whole.replaceLine? index content =
      (first.replaceLine? index content).map (· ++ second.text) := by
  rw [replaceLine?, replaceLine?, hlines, List.getElem?_append_left h, Option.map_map]
  refine Option.map_congr fun line hline => ?_
  rw [List.set_append_left _ _ h, TerminatedLine.toText_append]
  rfl

theorem replaceLine?_append_right {index : Nat} (h : first.lineCount ≤ index)
    (content : Text) :
    whole.replaceLine? index content =
      (second.replaceLine? (index - first.lineCount) content).map (first.text ++ ·) := by
  rw [replaceLine?, replaceLine?, hlines, List.getElem?_append_right h, Option.map_map]
  refine Option.map_congr fun line hline => ?_
  rw [List.set_append_right _ _ h, TerminatedLine.toText_append]
  rfl

/-- An edit of a line of the first part leaves the second part. -/
theorem edited?_append_left [PatternEngine]
    (syn : CommentSyntax) (hfirst : first.language = whole.language)
    {index : Nat} (h : index < first.lineCount) (pick : Choice → Option Text) :
    (whole.editLine? syn index pick).bind whole.edited? =
      ((first.editLine? syn index pick).bind first.edited?).map (· ++ second.text) := by
  rw [editLine?_congr hfirst.symm (line?_append_left hlines h)]
  cases hedit : first.editLine? syn index pick with
  | none => rfl
  | some edit =>
      have hindex : edit.index < first.lineCount := by rwa [index_of_editLine? hedit]
      exact replaceLine?_append_left hlines hindex edit.replacement

/-- An edit of a line of the second part leaves the first part. -/
theorem edited?_append_right [PatternEngine]
    (syn : CommentSyntax) (hsecond : second.language = whole.language)
    {index : Nat} (h : first.lineCount ≤ index) (pick : Choice → Option Text) :
    (whole.editLine? syn index pick).bind whole.edited? =
      ((second.editLine? syn (index - first.lineCount) pick).bind second.edited?).map
        (first.text ++ ·) := by
  rw [editLine?_of_line?_eq hsecond.symm (line?_append_right hlines h)]
  cases hedit : second.editLine? syn (index - first.lineCount) pick with
  | none => rfl
  | some edit =>
      have hindex := index_of_editLine? hedit
      show whole.replaceLine? index edit.replacement =
        (second.replaceLine? edit.index edit.replacement).map (first.text ++ ·)
      rw [hindex, replaceLine?_append_right hlines h]

end Append

/-- **Documents are line-local.** Behind a text that is empty or ends with a line feed, any
text is cut into its own lines. A scan of both texts together is the scan of the one
followed by that of the other, further down, and toggling a line gives what it gives in its
own text, with the other text in front or behind. Every annotation that is found, with its
assignment and its marker, lies in one line. -/
theorem append_line_local [PatternEngine] (language : Text) (syn : CommentSyntax) {front : Text}
    (hended : front = [] ∨ front.getLast? = some '\n') (back : Text) :
    let whole := ofText language (front ++ back)
    let first := ofText language front
    let second := ofText language back
    whole.lines = first.lines ++ second.lines ∧
    whole.scan syn = first.scan syn ++ (second.scan syn).map (·.below first.lineCount) ∧
    (∀ index, index < first.lineCount →
      (whole.toggle? syn index).bind whole.edited? =
        ((first.toggle? syn index).bind first.edited?).map (· ++ back)) ∧
    (∀ index, first.lineCount ≤ index →
      (whole.toggle? syn index).bind whole.edited? =
        ((second.toggle? syn (index - first.lineCount)).bind second.edited?).map (front ++ ·)) ∧
    ∀ found ∈ whole.scan syn, whole.line? found.index = some found.text ∧
      '\n' ∉ found.text ∧ found.choice.LiesIn found.text := by
  intro whole first second
  have hlines : whole.lines = first.lines ++ second.lines :=
    TerminatedLine.ofText_append hended back
  have hfirst : first.text = front := TerminatedLine.toText_ofText front
  have hsecond : second.text = back := TerminatedLine.toText_ofText back
  refine ⟨hlines, scan_append hlines syn rfl rfl, ?_, ?_, ?_⟩
  · intro index h
    rw [← hsecond]
    exact edited?_append_left hlines syn rfl h Choice.nextValue?
  · intro index h
    rw [← hfirst]
    exact edited?_append_right hlines syn rfl h Choice.nextValue?
  · intro found hfound
    obtain ⟨hline, hparse⟩ := mem_scan_iff.mp hfound
    exact ⟨hline, feedFree_of_mem_scan (TerminatedLine.wellCut_ofText _) hfound,
      Choice.liesIn_of_parseWith? hparse⟩

section

open scoped PatternEngine

/-- A token ends the first text, and the tag begins the second one: a marker of the whole
text that is a marker of no line. -/
theorem append_line_local_marker_across :
    let front := "x = 1 # [CB]: 1|0\r\ny = 2 #\n".toList
    let back := "[CB]: 2|3\nz = 0 # [CB]: 0|1\r".toList
    let whole := ofText "python".toList (front ++ back)
    let first := ofText "python".toList front
    let second := ofText "python".toList back
    front.getLast? = some '\n' ∧
    (Choice.parse? .hash "y = 2 #\n[CB]: 2|3".toList).isSome ∧
    (whole.scan .empty).map (·.index) = [0, 3] ∧
    whole.lines = first.lines ++ second.lines ∧
    (whole.toggle? .empty 0).bind whole.edited? =
      some ("x = 0 # [CB]: 1|0\r\ny = 2 #\n".toList ++ back) ∧
    (whole.toggle? .empty 3).bind whole.edited? =
      some (front ++ "[CB]: 2|3\nz = 1 # [CB]: 0|1\r".toList) := by
  intro front back whole first second
  have hended : front.getLast? = some '\n' := by decide
  obtain ⟨hlines, hscan, hfront, hback, -⟩ :=
    append_line_local "python".toList .empty (Or.inr hended) back
  refine ⟨hended, by decide, ?_, hlines, ?_, ?_⟩
  · rw [hscan]
    decide
  · rw [hfront 0 (by decide)]
    decide
  · rw [hback 3 (by decide)]
    decide

end

end Document

end InlineChoice
