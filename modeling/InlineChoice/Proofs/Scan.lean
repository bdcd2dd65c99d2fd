import InlineChoice.Choice.State
import InlineChoice.Proofs.Document

/-!
# What a scan finds after edits

A scan lists the annotations of a document. Their values change with every edit; what
else a scan shows of an annotation (`Choice.Outline`) does not. For one line that is the
simulation of line histories (`Line.outline?_run`), and for a document it follows line
by line, because the histories of its lines are independent of each other.

`Document.scan_run` puts the two levels together: after any history of a document, the
same lines are annotated, with the same outlines, between the same terminators.
-/

namespace InlineChoice

open TerminatedLine (WellCut mapContent)

/-! ## Outlines -/

/-- What an annotation shows apart from its value and the places of its parts. -/
structure Choice.Outline where
  name : Option Text
  target : Option Text
  candidates : List Text
  shape : Shape
  marker : Text
  deriving DecidableEq

/-- The outline of an annotation. -/
def Choice.outline (a : Choice) : Outline where
  name := a.name?
  target := a.assignment.map (·.target)
  candidates := a.candidates
  shape := a.shape
  marker := a.marker

/-- The shape of an annotation is a matter of its candidates. -/
theorem Choice.shape_congr {a b : Choice} (h : a.candidates = b.candidates) :
    a.shape = b.shape := by
  rw [shape, shape, h]

/-- The outline of the annotation on a line. -/
def Line.outline? [PatternEngine] (token line : Text) : Option Choice.Outline :=
  (Choice.parseWith? token line).map Choice.outline

/-- All annotations with one frame have one outline. -/
theorem Frame.Reads.outline_eq [PatternEngine]
    {frame : Frame} {token : CommentToken} {line line' w w' : Text}
    (h : frame.Reads token line w) (h' : frame.Reads token line' w') :
    Line.outline? token.text line = Line.outline? token.text line' := by
  obtain ⟨a, start, hparse, hasg, hcand, hmarker, -⟩ := h
  obtain ⟨a', start', hparse', hasg', hcand', hmarker', -⟩ := h'
  have hname := Choice.name?_congr hasg' hasg rfl
  have hshape := Choice.shape_congr (hcand.trans hcand'.symm)
  simp only [Line.outline?, hparse, hparse', Option.map_some,
    Choice.outline, hname, hshape, hasg, hasg', hcand, hcand', hmarker, hmarker']

namespace Line

/-- A history of a line without an annotated assignment does nothing. -/
theorem run_eq_self [PatternEngine]
    {token line : Text} (h : Unassigned token line) (steps : List Step) :
    run token steps line = line := by
  induction steps with
  | nil => rfl
  | cons step steps ih => rw [run_cons, Step.apply_eq_self h, ih]

/-- A history of a line keeps the outline of its annotation. -/
theorem outline?_run [PatternEngine] {token line : Text} (plain : Marker.PlainToken token)
    (hcand : ∀ a, Choice.parseWith? token line = some a →
      ∀ c ∈ a.candidates, ¬ Marker.tag <:+: c)
    {steps : List Step} (hsteps : ∀ step ∈ steps, step.TagFree) :
    outline? token (run token steps line) = outline? token line := by
  rcases unassigned_or_reads token line with hnone | ⟨t, frame, w, a, rfl, hreads, hparse, hframe⟩
  · rw [run_eq_self hnone]
  · have hframe : ∀ c ∈ frame.candidates, ¬ Marker.tag <:+: c := hframe ▸ hcand a hparse
    obtain ⟨w', -, hreads', -⟩ := run_simulates plain hframe hsteps hreads
    exact hreads'.outline_eq hreads

end Line

/-! ## Scans -/

/-- Positions in a list increase. -/
theorem pairwise_zipIdx {α : Type} (l : List α) : l.zipIdx.Pairwise (·.2 < ·.2) := by
  refine List.pairwise_map.mp ?_
  rw [List.zipIdx_map_snd]
  exact List.pairwise_lt_range' 1

namespace Document

/-- A scan parses every line with the token of the language. -/
theorem scan_eq [PatternEngine] (doc : Document) (syn : CommentSyntax) :
    doc.scan syn = doc.lines.zipIdx.filterMap fun (line, index) =>
      (Choice.parseWith? (syn.tokenFor doc.language) line.content).map
        (⟨index, line.content, ·⟩) := by
  simp only [scan, token?, Choice.parseWith?]
  cases CommentToken.ofText? (syn.tokenFor doc.language) with
  | none => simp
  | some token => rfl

/-- A scan finds the annotation of each line, and nothing else. -/
theorem mem_scan_iff [PatternEngine]
    {doc : Document} {syn : CommentSyntax} {found : AnnotatedLine} :
    found ∈ doc.scan syn ↔ doc.line? found.index = some found.text ∧
      Choice.parseWith? (syn.tokenFor doc.language) found.text = some found.choice := by
  rw [scan_eq, List.mem_filterMap]
  constructor
  · rintro ⟨⟨line, index⟩, hmem, hfound⟩
    obtain ⟨a, hparse, rfl⟩ := Option.map_eq_some_iff.mp hfound
    exact ⟨by rw [line?, List.mem_zipIdx_iff_getElem?.mp hmem]; rfl, hparse⟩
  · rintro ⟨hline, hparse⟩
    obtain ⟨line, hget, htext⟩ := Option.map_eq_some_iff.mp hline
    obtain ⟨index, text, a⟩ := found
    simp only at hget htext hparse
    subst htext
    exact ⟨(line, index), List.mem_zipIdx_iff_getElem?.mpr hget, by simp [hparse]⟩

/-- A scan finds the lines in order. -/
theorem pairwise_scan [PatternEngine] (doc : Document) (syn : CommentSyntax) :
    (doc.scan syn).Pairwise (·.index < ·.index) := by
  rw [scan_eq, List.pairwise_filterMap]
  refine (pairwise_zipIdx doc.lines).imp fun hlt found hfound found' hfound' => ?_
  obtain ⟨a, -, rfl⟩ := Option.map_eq_some_iff.mp hfound
  obtain ⟨a', -, rfl⟩ := Option.map_eq_some_iff.mp hfound'
  exact hlt

/-- What a scan shows apart from values follows from the outline of each line. -/
theorem map_outline_scan [PatternEngine] (doc : Document) (syn : CommentSyntax) :
    (doc.scan syn).map (fun found => (found.index, found.choice.outline)) =
      (doc.lines.map fun line =>
          Line.outline? (syn.tokenFor doc.language) line.content).zipIdx.filterMap
        fun (outline, index) => outline.map (index, ·) := by
  rw [scan_eq, List.zipIdx_map, List.filterMap_map, List.map_filterMap]
  congr 1
  funext ⟨line, index⟩
  simp [Line.outline?, Function.comp_def]

/-- **A whole history.** The lines of a document keep their outlines. -/
theorem map_outline?_run [PatternEngine]
    {doc : Document} (h : WellCut doc.lines) {syn : CommentSyntax}
    (plain : Marker.PlainToken (syn.tokenFor doc.language))
    (hcand : ∀ found ∈ doc.scan syn, ∀ c ∈ found.choice.candidates, ¬ Marker.tag <:+: c)
    {steps : List Step} (hsteps : ∀ s ∈ steps, s.action.FeedFree ∧ s.action.TagFree) :
    ((doc.run syn steps).lines.map fun line =>
        Line.outline? (syn.tokenFor doc.language) line.content) =
      doc.lines.map fun line => Line.outline? (syn.tokenFor doc.language) line.content := by
  refine List.ext_getElem? fun i => ?_
  rw [List.getElem?_map, getElem?_lines_run h syn (fun s hs => (hsteps s hs).1),
    List.getElem?_map, Option.map_map]
  refine Option.map_congr fun line hline => ?_
  refine Line.outline?_run plain (fun a hparse => ?_) fun action haction => ?_
  · refine hcand ⟨i, line.content, a⟩ (mem_scan_iff.mpr ⟨?_, hparse⟩)
    rw [line?, hline]
    rfl
  · obtain ⟨s, hs, rfl⟩ := List.mem_map.mp haction
    exact (hsteps s (List.mem_of_mem_filter hs)).2

/-- A step on another line is not seen. -/
theorem Step.on_eq_nil {i : Nat} {steps : List Step} (h : ∀ s ∈ steps, s.index ≠ i) :
    on i steps = [] := by
  simpa [on] using h

/-- **Editing never changes what is annotated.** With a plain token and candidates without
the tag, any history of a document keeps the number of its lines and their terminators,
the annotated lines and their outlines, and every line that no step names. -/
theorem scan_run [PatternEngine] {language text : Text} {syn : CommentSyntax}
    (plain : Marker.PlainToken (syn.tokenFor language))
    (hcand : ∀ found ∈ (ofText language text).scan syn,
      ∀ c ∈ found.choice.candidates, ¬ Marker.tag <:+: c)
    {steps : List Step} (hsteps : ∀ s ∈ steps, s.action.FeedFree ∧ s.action.TagFree) :
    ((ofText language text).run syn steps).lineCount = (ofText language text).lineCount ∧
    ((ofText language text).run syn steps).lines.map (·.terminator) =
      (ofText language text).lines.map (·.terminator) ∧
    (((ofText language text).run syn steps).scan syn).map
        (fun found => (found.index, found.choice.outline)) =
      ((ofText language text).scan syn).map
        (fun found => (found.index, found.choice.outline)) ∧
    ∀ i, (∀ s ∈ steps, s.index ≠ i) →
      ((ofText language text).run syn steps).lines[i]? = (ofText language text).lines[i]? := by
  have hcut : WellCut (ofText language text).lines := TerminatedLine.wellCut_ofText text
  have hlines := getElem?_lines_run hcut syn fun s hs => (hsteps s hs).1
  have hterm : ((ofText language text).run syn steps).lines.map (·.terminator) =
      (ofText language text).lines.map (·.terminator) := by
    refine List.ext_getElem? fun i => ?_
    rw [List.getElem?_map, hlines, List.getElem?_map, Option.map_map]
    rfl
  refine ⟨?_, hterm, ?_, fun i hi => ?_⟩
  · simpa [lineCount] using congrArg List.length hterm
  · rw [map_outline_scan, map_outline_scan, language_run, map_outline?_run hcut plain hcand hsteps]
  · rw [hlines, Step.on_eq_nil hi]
    exact Option.map_id'

section

open scoped PatternEngine

/-- A marker without an assignment, carriage returns around a value and behind a list,
steps on lines that are not there or declare nothing, and a value that is the token. -/
theorem scan_run_carriage_returns :
    let syn := CommentSyntax.empty.withToken "lua".toList "--".toList
    let doc := ofText "lua".toList
      "-- [CB]: on|off\r\nx == 1 -- [CB]: 1|2\n\nz =\r -- [CB]:a| |b||\r".toList
    let after := doc.run syn [⟨1, .advance⟩, ⟨3, .set " -- \r".toList⟩, ⟨9, .advance⟩,
      ⟨0, .advance⟩, ⟨1, .set []⟩]
    after.lineCount = doc.lineCount ∧
    after.lines.map (·.terminator) = doc.lines.map (·.terminator) ∧
    (after.scan syn).map (fun found => (found.index, found.choice.outline)) =
      (doc.scan syn).map (fun found => (found.index, found.choice.outline)) ∧
    ∀ i, (∀ s ∈ [Step.mk 1 .advance, ⟨3, .set " -- \r".toList⟩, ⟨9, .advance⟩, ⟨0, .advance⟩,
      ⟨1, .set []⟩], s.index ≠ i) → after.lines[i]? = doc.lines[i]? := by
  intro syn doc after
  have plain : Marker.PlainToken (syn.tokenFor "lua".toList) := by decide
  have hcand : ∀ found ∈ doc.scan syn, ∀ c ∈ found.choice.candidates, ¬ Marker.tag <:+: c := by
    decide
  have hsteps : ∀ s ∈ [Step.mk 1 .advance, ⟨3, .set " -- \r".toList⟩, ⟨9, .advance⟩,
      ⟨0, .advance⟩, ⟨1, .set []⟩], s.action.FeedFree ∧ s.action.TagFree := by
    simp only [List.mem_cons, List.not_mem_nil, or_false, forall_eq_or_imp, forall_eq,
      Line.Step.FeedFree, Line.Step.TagFree, true_and, and_true]
    decide
  exact scan_run plain hcand hsteps

end

end Document

end InlineChoice
