import InlineChoice.Proofs.EditCommand
import InlineChoice.Proofs.Scan

/-!
# The ways to an edit

The annotation of a line is read in several places: by a scan of the document, by an edit
of one line of the document, by an edit of a text, and by the commands, which read it once
to look at it and once more to edit it. All of them give the same answer.

* `Document.mem_scan_iff` says this for a scan, and `Document.follows_edit?` for the edits of
  a document: they follow the edits of the line's text (`Document.Follows`).
* `Editing.run_ne_unwritable` and `Editing.withTarget_guarded` are the consequences for the
  commands. What they would say if two readings differed is never said, and the line number
  from which they count down is never zero.
-/

namespace InlineChoice

/-! ## Edits of a document -/

/-- A text is rewritten if and only if it has an annotated assignment. -/
theorem Line.Step.isSome_edit?_iff [PatternEngine] {token line : Text} (step : Line.Step) :
    (step.edit? token line).isSome ↔
      ∃ a, Choice.parseWith? token line = some a ∧ a.assignment.isSome := by
  constructor
  · intro hsome
    cases hparse : Choice.parseWith? token line with
    | none =>
        have hnone : step.edit? token line = none := by
          cases step <;> simp [edit?, Line.advance?, Line.setValue?, hparse]
        rw [hnone] at hsome
        cases hsome
    | some a =>
        refine ⟨a, rfl, ?_⟩
        by_contra hasg
        rw [edit?_eq_none hparse (Option.not_isSome_iff_eq_none.mp hasg)] at hsome
        cases hsome
  · intro h
    obtain ⟨a, hparse, hasg⟩ := h
    rw [edit?_eq_some hparse hasg]
    rfl

namespace Document

/-- An edit that may be asked for on a line of a document follows the edit of the line's
text: there is one if and only if the line has an annotated assignment, if and only if the
text is rewritten, and then it exchanges the line for the rewritten text. -/
structure Follows [PatternEngine]
    (doc : Document) (syn : CommentSyntax) (index : Nat) (step : Line.Step)
    (edit? : Option LineEdit) : Prop where
  isSome_iff_assigned : edit?.isSome ↔ ∃ line a, doc.line? index = some line ∧
    Choice.parseWith? (syn.tokenFor doc.language) line = some a ∧ a.assignment.isSome
  isSome_iff_rewritten : edit?.isSome ↔ ∃ line, doc.line? index = some line ∧
    (step.edit? (syn.tokenFor doc.language) line).isSome
  edit_eq : ∀ edit, edit? = some edit → edit.index = index ∧
    doc.line? index = some edit.former ∧
    edit.replacement = step.apply (syn.tokenFor doc.language) edit.former

/-- **Edits of a document follow those of its lines.** -/
theorem follows_edit? [PatternEngine]
    (doc : Document) (syn : CommentSyntax) (index : Nat) (step : Line.Step) :
    Follows doc syn index step (Step.edit? doc syn ⟨index, step⟩) := by
  have hrewritten : (Step.edit? doc syn ⟨index, step⟩).isSome ↔
      ∃ line, doc.line? index = some line ∧
        (step.edit? (syn.tokenFor doc.language) line).isSome := by
    rw [Step.edit?_eq]
    cases doc.line? index <;> simp
  refine ⟨?_, hrewritten, ?_⟩
  · rw [hrewritten]
    simp only [Line.Step.isSome_edit?_iff, exists_and_left]
  · intro edit hedit
    obtain ⟨line, hline, rfl⟩ := Step.exists_of_edit? hedit
    exact ⟨rfl, hline, rfl⟩

end Document

/-! ## What the commands never say -/

namespace Editing

/-- Refusals for different reasons differ. -/
theorem reason_of_refused_eq {colours : Bool} {reason reason' notes notes' : Text}
    (h : { refused colours reason with notes } =
      { refused colours reason' with notes := notes' }) : reason = reason' := by
  have houtput := congrArg Outcome.output h
  simpa [refused, Report.line] using houtput

/-- The reason of a refusal that would be given if an annotated assignment could not be
rewritten. -/
def unwritable (request : EditRequest) : Text :=
  placeText request.file request.line ++ [' '] ++ "cannot be rewritten".toList

section Finish

variable (colours apply : Bool) {target : Target} {edit : LineEdit} {text : Text}
  (htext : target.file.document.edited? edit = some text)

include htext

/-- An edit of a document that has its line does not fail. -/
theorem failure_finish : (finish colours apply target edit).failure = none := by
  rw [finish, htext]
  split
  · rfl
  · split <;> rfl

/-- An edit of a document that has its line is not refused. -/
theorem finish_ne_refused (reason notes notes' : Text) :
    { finish colours apply target edit with notes } ≠
      { refused colours reason with notes := notes' } := by
  intro heq
  have hsuccess : (finish colours apply target edit).status = .success :=
    congrArg Prod.fst (effect_finish colours apply htext)
  have hfailure : (finish colours apply target edit).status = .failure :=
    congrArg Outcome.status heq
  rw [hsuccess] at hfailure
  cases hfailure

end Finish

variable {env : Environment} {request : EditRequest} {spot : Spot} {step : Line.Step}

/-- On the line that it reaches, a command neither refuses to rewrite an annotated
assignment nor fails. -/
theorem Reaches.answer_ne_unwritable [PatternEngine]
    (h : Reaches env request spot) {answer : Outcome}
    (hanswer : Answers env request spot step answer) :
    (∀ notes notes', { answer with notes } ≠
      { refused env.colours (unwritable request) with notes := notes' }) ∧
    answer.failure = none := by
  cases hanswer with
  | unannotated hparse =>
      refine ⟨?_, rfl⟩
      intro notes notes' heq
      have hreason := reason_of_refused_eq heq
      rw [unwritable, List.append_assoc, List.append_cancel_left_eq] at hreason
      exact absurd hreason (by decide)
  | unassigned hparse hoffered hasg =>
      refine ⟨?_, rfl⟩
      intro notes notes' heq
      have hreason := reason_of_refused_eq heq
      rw [unwritable, List.append_cancel_left_eq] at hreason
      exact absurd hreason (by decide)
  | foreign hparse hstep hforeign =>
      refine ⟨?_, rfl⟩
      intro notes notes' heq
      have hreason := reason_of_refused_eq heq
      -- The one ends in a bracket, the other one in a letter.
      have hlast : (unwritable request).getLast? = some 'n' := by
        rw [unwritable, List.getLast?_append_of_ne_nil _ (by decide)]
        rfl
      rw [← hreason, List.getLast?_concat] at hlast
      exact absurd hlast (by decide)
  | finished hparse hoffered hasg =>
      refine ⟨?_, failure_finish _ _ (h.edited?_eq _ _ _)⟩
      exact fun notes notes' => finish_ne_refused _ _ (h.edited?_eq _ _ _) _ notes notes'

/-- **The commands agree with themselves.** A command reads the line twice, and applies the
edit to the document from which it was computed. It never finds that an annotated assignment
cannot be rewritten or that the line is gone. -/
theorem run_ne_unwritable [PatternEngine]
    (env : Environment) (request : EditRequest) (step : Line.Step) :
    let outcome := (step.command request).run env
    (∀ notes, outcome ≠ { refused env.colours (unwritable request) with notes }) ∧
    ∀ place, outcome.failure ≠ some (.lineGone place) := by
  intro outcome
  rcases misses_or_reaches env request with hmisses | ⟨spot, hreaches⟩
  · obtain ⟨failure, notes, hfailure, hrun⟩ := hmisses.run_eq
    have houtcome : outcome = .failed failure notes := hrun step
    refine ⟨?_, ?_⟩
    · intro notes' heq
      have hstatus := congrArg Outcome.status (houtcome.symm.trans heq)
      cases hstatus
    · intro place heq
      rw [houtcome] at heq
      exact hfailure place (Option.some.inj heq)
  · obtain ⟨answer, notes, hanswer, hrun⟩ := hreaches.exists_answer step
    obtain ⟨hrefused, hnone⟩ := hreaches.answer_ne_unwritable hanswer
    refine ⟨?_, ?_⟩
    · intro notes' heq
      exact hrefused notes notes' (hrun.symm.trans heq)
    · intro place heq
      have hfailure : outcome.failure = none := by
        rw [show outcome = _ from hrun]
        exact hnone
      rw [hfailure] at heq
      cases heq

/-- **Line numbers are counted down from one or more.** What a command would do on a line
with the number zero does not matter, because it is never done. -/
theorem withTarget_guarded [PatternEngine] (env : Environment) (request : EditRequest)
    (act other : Session → Target → Outcome) :
    withTarget env request act = withTarget env request fun s target =>
      if target.line = 0 then other s target else act s target := by
  rcases misses_or_reaches env request with hmisses | ⟨spot, hreaches⟩
  · obtain ⟨failure, notes, -, hrun⟩ := hmisses.exists_failure
    rw [hrun, hrun]
  · obtain ⟨found, notes, hrun⟩ := hreaches.withTarget_eq rfl
    have hpos : request.line ≠ 0 := by
      have hnumber := hreaches.number_eq
      omega
    rw [hrun, hrun]
    simp only [target, hpos, if_false]

/-- **All ways to an edit agree.** A scan finds the lines that have an annotation, each with
its annotation and in order. An edit of a document can be had exactly where the line has an
annotated assignment, which is where its text is rewritten, and it writes the rewritten
text. So a command never finds that an annotated assignment cannot be rewritten or that its
line is gone, and it never counts down from the line number zero. -/
theorem edit_routes_agree [PatternEngine] (doc : Document) (syn : CommentSyntax) (env : Environment)
    (request : EditRequest) :
    ((doc.scan syn).Pairwise (·.index < ·.index) ∧
      ∀ index line a, ⟨index, line, a⟩ ∈ doc.scan syn ↔ doc.line? index = some line ∧
        Choice.parseWith? (syn.tokenFor doc.language) line = some a) ∧
    (∀ index, doc.Follows syn index .advance (doc.toggle? syn index)) ∧
    (∀ index value, doc.Follows syn index (.set value) (doc.set? syn index value)) ∧
    (∀ step : Line.Step,
      let outcome := (step.command request).run env
      (∀ notes, outcome ≠ { refused env.colours (unwritable request) with notes }) ∧
      ∀ place, outcome.failure ≠ some (.lineGone place)) ∧
    ∀ act other : Session → Target → Outcome,
      withTarget env request act = withTarget env request fun s target =>
        if target.line = 0 then other s target else act s target := by
  refine ⟨⟨doc.pairwise_scan syn, ?_⟩, ?_, ?_, run_ne_unwritable env request,
    withTarget_guarded env request⟩
  · intro index line a
    exact Document.mem_scan_iff
  · intro index
    exact doc.follows_edit? syn index .advance
  · intro index value
    exact doc.follows_edit? syn index (.set value)

end Editing

end InlineChoice
