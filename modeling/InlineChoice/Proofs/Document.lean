import InlineChoice.Document.Edit
import InlineChoice.Proofs.Cycle
import InlineChoice.Proofs.Lines

/-!
# Histories of documents

A history of a document is a list of steps, each on one of its lines. A step computes
its edit from the document, applies it, and cuts the new text into lines anew, so it
could in principle move, join or split lines.

It does not. `Line.Step.fits` says that a rewritten line fits in the place of the old
one, whatever the token, and so the cut goes through the same places
(`Document.lines_step`). From there a history of the document is one history for each
of its lines, and these do not know of each other: `Document.getElem?_lines_run`.
-/

namespace InlineChoice

open TerminatedLine (WellCut Fits mapContent)

/-! ## A rewritten line fits -/

namespace Frame.Reads

variable {frame : Frame} {token : CommentToken} {line w : Text}

/-- A candidate of a line is made of characters of this line. -/
theorem mem_line_of_mem_candidate [PatternEngine]
    (h : frame.Reads token line w) {candidate : Text} {c : Char}
    (hcand : candidate ∈ frame.candidates) (hc : c ∈ candidate) : c ∈ line := by
  obtain ⟨rest, m, hleft, hframe, -, rfl, -⟩ := h.exists_leftmost
  obtain ⟨front, hspan, -⟩ := Marker.span_of_readAt? hleft.stands
  rw [hframe] at hcand
  have hlist := CandidateList.mem_of_mem_candidates hcand hc
  simp [hspan, hlist]

/-- A line that is written into the frame of another one fits in its place. -/
theorem fits_write [PatternEngine]
    (h : frame.Reads token line w) (hline : '\n' ∉ line) {value : Text}
    (hvalue : '\n' ∉ value) : Fits (frame.write value) line := by
  obtain ⟨rest, m, hleft, hframe, -, rfl, -⟩ := h.exists_leftmost
  obtain ⟨front, -, hspan⟩ := Marker.span_of_readAt? hleft.stands
  generalize frame.target = target at hframe hline
  subst hframe
  have hend : m.span ++ m.tail ≠ [] := by simp [hspan]
  refine ⟨?_, ?_⟩
  · simp only [List.mem_append, not_or] at hline
    simp [Frame.write, hline, hvalue]
  · rw [Frame.write, List.append_assoc _ m.span, List.getLast?_append_of_ne_nil _ hend,
      List.getLast?_append_of_ne_nil _ hend]

end Frame.Reads

/-- The line has no annotation, or one without an assignment. -/
def Line.Unassigned [PatternEngine] (token line : Text) : Prop :=
  ∀ a, Choice.parseWith? token line = some a → a.assignment = none

/-- A line has nothing to edit, or it reads as a frame around a value. -/
theorem Line.unassigned_or_reads [PatternEngine] (token line : Text) :
    Unassigned token line ∨
      ∃ (t : CommentToken) (frame : Frame) (w : Text) (a : Choice), t.text = token ∧
        frame.Reads t line w ∧ Choice.parseWith? token line = some a ∧
        a.candidates = frame.candidates := by
  by_cases h : Unassigned token line
  · exact Or.inl h
  · obtain ⟨a, hparse, hsome⟩ : ∃ a, Choice.parseWith? token line = some a ∧
        a.assignment ≠ none := by simpa [Unassigned] using h
    obtain ⟨asg, hasg⟩ := Option.ne_none_iff_exists'.mp hsome
    obtain ⟨t, before, after, tail, htoken, -, hreads⟩ := Frame.exists_reads hparse hasg
    exact Or.inr ⟨t, _, asg.value, a, htoken, hreads, hparse, rfl⟩

namespace Line.Step

/-- The step writes no line feed. -/
def FeedFree : Step → Prop
  | advance => True
  | set value => '\n' ∉ value.trim

/-- Without an annotated assignment a step does nothing. -/
theorem apply_eq_self [PatternEngine]
    {token line : Text} (h : Line.Unassigned token line) (step : Step) :
    step.apply token line = line := by
  cases step with
  | advance => exact (edits_eq_self h []).2
  | set value => exact (edits_eq_self h value).1

/-- A step leaves a line that fits in the place of the old one. -/
theorem fits [PatternEngine] {step : Step} (hstep : step.FeedFree) (token : Text) {line : Text}
    (hline : '\n' ∉ line) : Fits (step.apply token line) line := by
  rcases Line.unassigned_or_reads token line with hnone | ⟨token, frame, w, a, rfl, hreads, -⟩
  · rw [apply_eq_self hnone]
    exact ⟨hline, rfl⟩
  · cases step with
    | advance =>
        obtain ⟨next, hnext, -, hadvance⟩ := hreads.advance_eq
        rw [apply, hadvance]
        exact hreads.fits_write hline fun hmem =>
          hline (hreads.mem_line_of_mem_candidate hnext hmem)
    | set value =>
        rw [apply, hreads.setValue_eq]
        exact hreads.fits_write hline hstep

/-- The line that a step writes, if there is an annotated assignment. -/
def edit? [PatternEngine] (token : Text) : Step → Text → Option Text
  | advance, line => Line.advance? token line
  | set value, line => Line.setValue? token value line

theorem apply_eq_getD [PatternEngine] (token : Text) (step : Step) (line : Text) :
    step.apply token line = (step.edit? token line).getD line := by
  cases step <;> rfl

end Line.Step

/-! ## One step of a document -/

namespace Document

/-- A step on one line of a document. -/
structure Step where
  /-- The position of the line, counted from zero. -/
  index : Nat
  action : Line.Step

namespace Step

/-- The edit that a step asks for. -/
def edit? [PatternEngine] (doc : Document) (syn : CommentSyntax) (step : Step) : Option LineEdit :=
  match step.action with
  | .advance => doc.toggle? syn step.index
  | .set value => doc.set? syn step.index value

end Step

/-- An edit is computed from the one line that it names. -/
theorem editLine?_eq [PatternEngine] (doc : Document) (syn : CommentSyntax) (index : Nat)
    (pick : Choice → Option Text) :
    doc.editLine? syn index pick = (doc.line? index).bind fun line =>
      ((Choice.parseWith? (syn.tokenFor doc.language) line).bind fun a =>
        (pick a).bind (a.withValue? line)).map (⟨index, line, ·⟩) := by
  simp only [editLine?, token?, Choice.parseWith?, Option.bind_eq_bind, Option.bind_assoc,
    Option.pure_def, Function.comp_def, Option.map_eq_bind]

/-- An edit names the line that it was asked for. -/
theorem index_of_editLine? [PatternEngine] {doc : Document} {syn : CommentSyntax} {index : Nat}
    {pick : Choice → Option Text} {edit : LineEdit}
    (h : doc.editLine? syn index pick = some edit) : edit.index = index := by
  rw [editLine?_eq] at h
  obtain ⟨line, -, hline⟩ := Option.bind_eq_some_iff.mp h
  obtain ⟨replacement, -, rfl⟩ := Option.map_eq_some_iff.mp hline
  rfl

/-- Equal lines of documents in one language have equal edits, wherever they stand. -/
theorem editLine?_of_line?_eq [PatternEngine] {doc other : Document} {index place : Nat}
    (hlanguage : other.language = doc.language) (hline : other.line? place = doc.line? index)
    (syn : CommentSyntax) (pick : Choice → Option Text) :
    other.editLine? syn place pick =
      (doc.editLine? syn index pick).map fun edit => { edit with index := place } := by
  rw [editLine?_eq, editLine?_eq, hlanguage, hline]
  cases doc.line? index with
  | none => rfl
  | some line => simp [Function.comp_def]

theorem editLine?_congr [PatternEngine] {doc other : Document} {index : Nat}
    (hlanguage : other.language = doc.language) (hline : other.line? index = doc.line? index)
    (syn : CommentSyntax) (pick : Choice → Option Text) :
    other.editLine? syn index pick = doc.editLine? syn index pick := by
  rw [editLine?_eq, editLine?_eq, hlanguage, hline]

theorem Step.edit?_eq [PatternEngine] (doc : Document) (syn : CommentSyntax) (step : Step) :
    step.edit? doc syn = (doc.line? step.index).bind fun line =>
      (step.action.edit? (syn.tokenFor doc.language) line).map (⟨step.index, line, ·⟩) := by
  obtain ⟨index, action⟩ := step
  cases action with
  | advance => exact editLine?_eq doc syn index Choice.nextValue?
  | set value => exact editLine?_eq doc syn index fun _ => some value.trim

/-- The document after a step: the edit is computed from the document and applied to it,
and the new text is cut into lines. A step that edits nothing leaves the text. -/
def step [PatternEngine] (syn : CommentSyntax) (doc : Document) (s : Step) : Document :=
  ofText doc.language (((s.edit? doc syn).bind doc.edited?).getD doc.text)

@[simp] theorem language_step [PatternEngine] (syn : CommentSyntax) (doc : Document) (s : Step) :
    (doc.step syn s).language = doc.language := rfl

theorem wellCut_step [PatternEngine] (syn : CommentSyntax) (doc : Document) (s : Step) :
    WellCut (doc.step syn s).lines :=
  TerminatedLine.wellCut_ofText _

/-- **One step.** The named line gets the content that the step on this line leaves,
and nothing else changes: the new text is cut in the same places. -/
theorem lines_step [PatternEngine]
    {doc : Document} (h : WellCut doc.lines) (syn : CommentSyntax) {s : Step}
    (hs : s.action.FeedFree) :
    (doc.step syn s).lines =
      doc.lines.modify s.index (mapContent (s.action.apply (syn.tokenFor doc.language))) := by
  have hcut : (doc.step syn s).lines =
      TerminatedLine.ofText (((s.edit? doc syn).bind doc.edited?).getD doc.text) := rfl
  have hself : TerminatedLine.ofText doc.text = doc.lines := TerminatedLine.ofText_toText h
  rw [hcut, Step.edit?_eq, line?, List.modify_eq_set_getElem?]
  cases hline : doc.lines[s.index]? with
  | none => exact hself
  | some line =>
      have happly := s.action.apply_eq_getD (syn.tokenFor doc.language) line.content
      obtain ⟨hlt, hget⟩ := List.getElem?_eq_some_iff.mp hline
      cases hedit : s.action.edit? (syn.tokenFor doc.language) line.content with
      | none =>
          rw [hedit, Option.getD_none] at happly
          have hset : doc.lines.set s.index line = doc.lines := by
            rw [← hget, List.set_getElem_self]
          simp [mapContent, hedit, happly, hset, hself]
      | some content =>
          rw [hedit, Option.getD_some] at happly
          have hfits : Fits content line.content := by
            have hline := (h.proper line (List.mem_of_getElem? hline)).1
            exact happly ▸ Line.Step.fits hs (syn.tokenFor doc.language) hline
          have hwell := TerminatedLine.ofText_toText (h.set hline hfits)
          simp [mapContent, hedit, happly, edited?, replaceLine?, hline, hwell]

/-- No line of a document holds a line feed. -/
theorem feedFree_of_line? {doc : Document} (h : WellCut doc.lines) {index : Nat} {line : Text}
    (hline : doc.line? index = some line) : '\n' ∉ line := by
  obtain ⟨whole, hget, rfl⟩ := Option.map_eq_some_iff.mp hline
  exact (h.proper whole (List.mem_of_getElem? hget)).1

/-- An edit exchanges the line that its step names for what the step makes of it. -/
theorem Step.exists_of_edit? [PatternEngine] {doc : Document} {syn : CommentSyntax} {s : Step}
    {edit : LineEdit} (h : s.edit? doc syn = some edit) :
    ∃ line, doc.line? s.index = some line ∧
      edit = ⟨s.index, line, s.action.apply (syn.tokenFor doc.language) line⟩ := by
  rw [Step.edit?_eq] at h
  obtain ⟨line, hline, hmap⟩ := Option.bind_eq_some_iff.mp h
  obtain ⟨replacement, hreplacement, rfl⟩ := Option.map_eq_some_iff.mp hmap
  refine ⟨line, hline, ?_⟩
  rw [Line.Step.apply_eq_getD, hreplacement, Option.getD_some]

/-- An edit can be applied to the document from which it was computed. -/
theorem exists_edited_of_edit? [PatternEngine] {doc : Document} {syn : CommentSyntax} {s : Step}
    {edit : LineEdit} (h : s.edit? doc syn = some edit) :
    ∃ edited, doc.edited? edit = some edited := by
  obtain ⟨line, hline, rfl⟩ := Step.exists_of_edit? h
  obtain ⟨whole, hget, -⟩ := Option.map_eq_some_iff.mp hline
  exact ⟨_, by rw [edited?, replaceLine?, hget, Option.map_some]⟩

/-- An edit writes no line feed, if its step does not. -/
theorem feedFree_replacement [PatternEngine]
    {doc : Document} (h : WellCut doc.lines) {syn : CommentSyntax}
    {s : Step} (hs : s.action.FeedFree) {edit : LineEdit} (hedit : s.edit? doc syn = some edit) :
    '\n' ∉ edit.replacement := by
  obtain ⟨line, hline, rfl⟩ := Step.exists_of_edit? hedit
  exact (Line.Step.fits hs (syn.tokenFor doc.language) (feedFree_of_line? h hline)).no_feed

/-! ## Histories -/

/-- The document after a history. -/
def run [PatternEngine] (syn : CommentSyntax) (doc : Document) (steps : List Step) : Document :=
  steps.foldl (step syn) doc

/-- What a history does on one line. -/
def Step.on (i : Nat) (steps : List Step) : List Line.Step :=
  (steps.filter (·.index = i)).map (·.action)

theorem Step.on_cons (i : Nat) (s : Step) (steps : List Step) :
    on i (s :: steps) = if s.index = i then s.action :: on i steps else on i steps := by
  by_cases h : s.index = i <;> simp [on, h]

@[simp] theorem run_cons [PatternEngine] (syn : CommentSyntax) (doc : Document) (s : Step)
    (steps : List Step) : doc.run syn (s :: steps) = (doc.step syn s).run syn steps := rfl

theorem language_run [PatternEngine] (syn : CommentSyntax) (doc : Document) (steps : List Step) :
    (doc.run syn steps).language = doc.language := by
  induction steps generalizing doc with
  | nil => rfl
  | cons s steps ih => rw [run_cons, ih, language_step]

/-- **A whole history.** Every line has a history of its own, made of the steps that
name this line. -/
theorem getElem?_lines_run [PatternEngine]
    {doc : Document} (h : WellCut doc.lines) (syn : CommentSyntax)
    {steps : List Step} (hsteps : ∀ s ∈ steps, s.action.FeedFree) (i : Nat) :
    (doc.run syn steps).lines[i]? =
      doc.lines[i]?.map (mapContent (Line.run (syn.tokenFor doc.language) (Step.on i steps))) := by
  induction steps generalizing doc with
  | nil => exact Option.map_id'.symm
  | cons s steps ih =>
      have hrest := ih (wellCut_step syn doc s) fun t ht => hsteps t (List.mem_cons_of_mem s ht)
      rw [run_cons, hrest, language_step, lines_step h syn (hsteps s List.mem_cons_self),
        List.getElem?_modify, Step.on_cons]
      by_cases hi : s.index = i
      · simp only [hi, if_true, Option.map_eq_map, Option.map_map]
        rfl
      · simp [hi]

/-! ## Toggling -/

/-- The document after its lines at some positions have been advanced, one after the
other. -/
def toggled [PatternEngine]
    (syn : CommentSyntax) (doc : Document) (indices : List Nat) : Document :=
  doc.run syn (indices.map fun index => ⟨index, .advance⟩)

theorem Step.on_toggles (i : Nat) (indices : List Nat) :
    on i (indices.map fun index => ⟨index, .advance⟩) =
      List.replicate (indices.count i) .advance := by
  induction indices with
  | nil => rfl
  | cons index indices ih =>
      rw [List.map_cons, on_cons, ih, List.count_cons]
      by_cases hi : index = i
      · simp [hi, List.replicate_succ]
      · simp [hi]

/-- Toggling advances each line as often as its position occurs. -/
theorem getElem?_lines_toggled [PatternEngine]
    {doc : Document} (h : WellCut doc.lines) (syn : CommentSyntax)
    (indices : List Nat) (i : Nat) :
    (doc.toggled syn indices).lines[i]? = doc.lines[i]?.map
      (mapContent (Line.advance (syn.tokenFor doc.language))^[indices.count i]) := by
  have hfree : ∀ s ∈ indices.map fun index => Step.mk index .advance, s.action.FeedFree := by
    simp [Line.Step.FeedFree]
  have hrun : Line.run (syn.tokenFor doc.language) (List.replicate (indices.count i) .advance) =
      (Line.advance (syn.tokenFor doc.language))^[indices.count i] :=
    funext fun line => Line.run_replicate_advance _ _ line
  rw [toggled, getElem?_lines_run h syn hfree, Step.on_toggles, hrun]

/-- **Toggles commute.** What a sequence of toggles makes of a text depends only on how
often each position occurs in it; each line is advanced that often, and terminators and
all other lines are kept. Nothing is assumed about the token. -/
theorem toggles_commute [PatternEngine] (language text : Text) (syn : CommentSyntax)
    {indices indices' : List Nat} (hperm : indices.Perm indices') :
    ((ofText language text).toggled syn indices).text =
        ((ofText language text).toggled syn indices').text ∧
      ∀ i, ((ofText language text).toggled syn indices).lines[i]? =
        (ofText language text).lines[i]?.map
          (mapContent (Line.advance (syn.tokenFor language))^[indices.count i]) := by
  have hcut : WellCut (ofText language text).lines := TerminatedLine.wellCut_ofText text
  have hlines := getElem?_lines_toggled hcut syn
  refine ⟨congrArg TerminatedLine.toText (List.ext_getElem? fun i => ?_), hlines indices⟩
  rw [hlines, hlines, hperm.count_eq]

section

open scoped PatternEngine

/-- Three ways to end a line, a token that is a carriage return, and a position behind
the last line. -/
theorem toggles_commute_carriage_returns :
    let syn := CommentSyntax.empty.withToken "t".toList "\r".toList
    let doc := ofText "t".toList "x = a\r[CB]:a|b\r\r\n\ny=\r[CB]:1|2|3\nz\r".toList
    [2, 0, 0, 7, 2].Perm [0, 2, 7, 2, 0] ∧
    (doc.toggled syn [2, 0, 0, 7, 2]).text = (doc.toggled syn [0, 2, 7, 2, 0]).text ∧
    ∀ i, (doc.toggled syn [2, 0, 0, 7, 2]).lines[i]? = doc.lines[i]?.map
      (mapContent (Line.advance (syn.tokenFor "t".toList))^[[2, 0, 0, 7, 2].count i]) := by
  intro syn doc
  have hperm : [2, 0, 0, 7, 2].Perm [0, 2, 7, 2, 0] := by decide
  exact ⟨hperm, toggles_commute _ _ syn hperm⟩

end

end Document

end InlineChoice
