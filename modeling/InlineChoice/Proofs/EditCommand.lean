import InlineChoice.Command.Run
import InlineChoice.Proofs.Document
import InlineChoice.Proofs.FileTree

/-!
# What the editing commands do to files

A command that edits a line reads the configuration and the file, looks for the line
and its annotation, and asks whether the annotation admits the edit. Each of these may
fail. The theory cuts this sequence at one place: either something on the way to the
line is missing (`Misses`), or the command reaches a line (`Reaches`), and then the line
alone decides (`Line.Step.Admitted`).

`Reaches.exists_answer` lists what a command can answer on the line that it reaches, for
both commands at once. From there `effect_of_misses`, `Reaches.effect_of_not_admitted` and
`Reaches.effect_of_admitted` give the status and the written file in the three cases.
`edit_command_effect` draws the consequences for the file tree.
-/

namespace InlineChoice

/-- The language of the file of a request. -/
def EditRequest.language (request : EditRequest) (config : Config) : Text :=
  request.settings.language.getD
    (config.commentSyntax.languageFor (FilePath.ofText request.file))

/-- The comment token of the file of a request. -/
def EditRequest.token (request : EditRequest) (config : Config) : Text :=
  config.commentSyntax.tokenFor (request.language config)

/-! ## Steps as commands -/

namespace Line.Step

/-- The command that makes a step on the line of a request. -/
def command (request : EditRequest) : Line.Step → Command
  | advance => .toggle request
  | set value => .set request value

/-- A value that is to be set is a candidate, once it is trimmed. -/
def Offered (a : Choice) : Line.Step → Prop
  | advance => True
  | set value => value.trim ∈ a.candidates

instance (a : Choice) (step : Line.Step) : Decidable (step.Offered a) :=
  match step with
  | .advance => inferInstanceAs (Decidable True)
  | .set value => inferInstanceAs (Decidable (value.trim ∈ a.candidates))

/-- The line has an annotated assignment that offers the step. -/
def Admitted [PatternEngine] (token line : Text) (step : Line.Step) : Prop :=
  ∃ a, Choice.parseWith? token line = some a ∧ a.assignment.isSome ∧ step.Offered a

variable [PatternEngine] {token line : Text} {a : Choice}
  (hparse : Choice.parseWith? token line = some a)

include hparse

/-- A step writes nothing into an annotation without an assignment. -/
theorem edit?_eq_none (hasg : a.assignment = none) (step : Line.Step) :
    step.edit? token line = none := by
  have hvalue (value : Text) : a.withValue? line value = none := by
    simp [Choice.withValue?, hasg]
  cases step <;> simp [edit?, Line.advance?, Line.setValue?, hparse, hvalue]

/-- A step writes a line wherever there is an annotated assignment. -/
theorem edit?_eq_some (hasg : a.assignment.isSome) (step : Line.Step) :
    step.edit? token line = some (step.apply token line) := by
  obtain ⟨asg, hasg⟩ := Option.isSome_iff_exists.mp hasg
  obtain ⟨token, before, after, tail, rfl, -, hreads⟩ := Frame.exists_reads hparse hasg
  obtain ⟨next, -, hnext⟩ := exists_nextValue? hreads.candidates_ne_nil a.value?
  have hvalue (value : Text) : (a.withValue? line value).isSome := by
    simp [Choice.withValue?, hasg]
  have hsome : (step.edit? token.text line).isSome := by
    cases step with
    | advance =>
        have hnext : a.nextValue? = some next := hnext
        simp [edit?, Line.advance?, hparse, hnext, hvalue]
    | set value => simp [edit?, Line.setValue?, hparse, hvalue]
  obtain ⟨new, hnew⟩ := Option.isSome_iff_exists.mp hsome
  rw [apply_eq_getD, hnew, Option.getD_some]

end Line.Step

/-! ## The way to the line -/

namespace Editing

/-- A line in its file, with the configuration in force. -/
structure Spot where
  config : Config
  place : Location
  text : Text
  above : List TerminatedLine
  line : TerminatedLine
  below : List TerminatedLine

/-- The text of the file with another content on the line; the terminator of the line
and all other lines are kept. -/
def Spot.textWith (spot : Spot) (content : Text) : Text :=
  TerminatedLine.toText spot.above ++ content ++
    (spot.line.terminator.text ++ TerminatedLine.toText spot.below)

/-- The command reaches a line: the configuration loads, the file has a text, and the
line stands in this text at the number that was asked for. -/
structure Reaches (env : Environment) (request : EditRequest) (spot : Spot) : Prop where
  config_loads : ∃ found, Config.load env.tree env.directory = .ok (spot.config, found)
  file_reads : env.tree.read env.directory request.file = .ok (spot.place, spot.text)
  lines_eq : TerminatedLine.ofText spot.text = spot.above ++ spot.line :: spot.below
  number_eq : spot.above.length + 1 = request.line

/-- Something on the way to the line is missing: the configuration does not load, the
file cannot be read, or the number is zero or greater than the number of lines. -/
def Misses (env : Environment) (request : EditRequest) : Prop :=
  (∃ fault, Config.load env.tree env.directory = .error fault) ∨
  (∃ fault, env.tree.read env.directory request.file = .error fault) ∨
  request.line = 0 ∨
  ∃ place text, env.tree.read env.directory request.file = .ok (place, text) ∧
    (TerminatedLine.ofText text).length < request.line

theorem misses_or_reaches (env : Environment) (request : EditRequest) :
    Misses env request ∨ ∃ spot, Reaches env request spot := by
  cases hconfig : Config.load env.tree env.directory with
  | error fault => exact Or.inl (Or.inl ⟨fault, hconfig⟩)
  | ok loaded =>
  cases hfile : env.tree.read env.directory request.file with
  | error fault => exact Or.inl (Or.inr (Or.inl ⟨fault, hfile⟩))
  | ok read =>
  obtain ⟨config, found⟩ := loaded
  obtain ⟨place, text⟩ := read
  by_cases hzero : request.line = 0
  · exact Or.inl (Or.inr (Or.inr (Or.inl hzero)))
  by_cases hfar : (TerminatedLine.ofText text).length < request.line
  · exact Or.inl (Or.inr (Or.inr (Or.inr ⟨place, text, hfile, hfar⟩)))
  have hlt : request.line - 1 < (TerminatedLine.ofText text).length := by omega
  refine Or.inr ⟨⟨config, place, text, (TerminatedLine.ofText text).take (request.line - 1),
    (TerminatedLine.ofText text)[request.line - 1],
    (TerminatedLine.ofText text).drop (request.line - 1 + 1)⟩, ⟨found, hconfig⟩, hfile, ?_, ?_⟩
  · rw [List.cons_getElem_drop_succ, List.take_append_drop]
  · rw [List.length_take]
    omega

namespace Reaches

variable {env : Environment} {request : EditRequest} {spot : Spot}
  (h : Reaches env request spot)

include h

/-- A command that reaches a line misses nothing. -/
theorem not_misses : ¬ Misses env request := by
  have hlength := congrArg List.length h.lines_eq
  rw [List.length_append, List.length_cons] at hlength
  have hnumber := h.number_eq
  rintro (⟨fault, hconfig⟩ | ⟨fault, hfile⟩ | hzero | ⟨place, text, hfile, hfar⟩)
  · obtain ⟨found, hloads⟩ := h.config_loads
    cases hloads.symm.trans hconfig
  · cases h.file_reads.symm.trans hfile
  · omega
  · cases h.file_reads.symm.trans hfile
    omega

/-- A command reaches one line at most. -/
theorem unique {spot' : Spot} (h' : Reaches env request spot') : spot = spot' := by
  obtain ⟨config, place, text, above, line, below⟩ := spot
  obtain ⟨config', place', text', above', line', below'⟩ := spot'
  obtain ⟨found, hload⟩ := h.config_loads
  obtain ⟨found', hload'⟩ := h'.config_loads
  cases hload.symm.trans hload'
  cases h.file_reads.symm.trans h'.file_reads
  have hlength : above.length = above'.length :=
    Nat.add_right_cancel (h.number_eq.trans h'.number_eq.symm)
  obtain ⟨rfl, hrest⟩ := List.append_inj (h.lines_eq.symm.trans h'.lines_eq) hlength
  cases hrest
  rfl

theorem text_eq : spot.text = spot.textWith spot.line.content := by
  rw [← TerminatedLine.toText_ofText spot.text, h.lines_eq]
  simp [Spot.textWith, TerminatedLine.toText, TerminatedLine.text]

theorem index_eq : request.line - 1 = spot.above.length := by
  rw [← h.number_eq, Nat.add_sub_cancel]

theorem document_lines (language : Text) :
    (Document.ofText language spot.text).lines = spot.above ++ spot.line :: spot.below :=
  h.lines_eq

theorem line?_eq (language : Text) :
    (Document.ofText language spot.text).line? (request.line - 1) = some spot.line.content := by
  simp [Document.line?, h.index_eq, h.document_lines]

theorem edited?_eq (language former replacement : Text) :
    (Document.ofText language spot.text).edited? ⟨request.line - 1, former, replacement⟩ =
      some (spot.textWith replacement) := by
  simp [Document.edited?, Document.replaceLine?, h.index_eq, h.document_lines, Spot.textWith,
    TerminatedLine.toText, TerminatedLine.text]

/-- The edit that a step asks for on the line that is reached. -/
theorem edit?_eq [PatternEngine] (step : Line.Step) :
    Document.Step.edit? (.ofText (request.language spot.config) spot.text)
        spot.config.commentSyntax ⟨request.line - 1, step⟩ =
      (step.edit? (request.token spot.config) spot.line.content).map
        (⟨request.line - 1, spot.line.content, ·⟩) := by
  rw [Document.Step.edit?_eq, h.line?_eq]
  rfl

end Reaches

end Editing

/-! ## What an outcome does beside what it says -/

/-- The status of a command and the file that it writes. -/
def Outcome.effect (outcome : Outcome) : ExitStatus × Option (Location × Text) :=
  (outcome.status, outcome.written)

namespace Editing

theorem effect_finish (colours apply : Bool) {target : Target} {edit : LineEdit} {text : Text}
    (htext : target.file.document.edited? edit = some text) :
    (finish colours apply target edit).effect =
      (.success, if apply ∧ edit.replacement ≠ edit.former then
        some (target.file.place, text) else none) := by
  have hnoop : edit.isNoop = true ↔ edit.replacement = edit.former := by
    rw [LineEdit.isNoop, decide_eq_true_iff, eq_comm]
  rw [finish]
  by_cases hsame : edit.replacement = edit.former
  · simp [hnoop.mpr hsame, hsame, Outcome.effect]
  · cases apply <;> simp [hnoop, hsame, htext, Outcome.effect]

/-! ## Reading the files of a request -/

/-- The session of a request. -/
def session (env : Environment) (request : EditRequest) (config : Config)
    (found : Option Location) : Session where
  environment := env
  settings := request.settings
  config := config
  configPlace := found

/-- The line of a request with its annotation. -/
def target (request : EditRequest) (config : Config) (place : Location) (text : Text)
    (choice : Choice) : Target where
  file := { path := request.file, place, document := .ofText (request.language config) text }
  line := request.line
  choice := choice

theorem start_eq (env : Environment) (request : EditRequest) :
    Session.start env request.settings = match Config.load env.tree env.directory with
      | .ok (config, found) => .ok (session env request config found)
      | .error fault => .error (.config fault) :=
  Session.start_eq env request.settings

theorem load_session (env : Environment) (request : EditRequest) (config : Config)
    (found : Option Location) :
    (session env request config found).load request.file =
      match env.tree.read env.directory request.file with
      | .ok (place, text) => .ok
          { path := request.file, place, document := .ofText (request.language config) text }
      | .error fault => .error (.unreadable request.file fault) :=
  Session.load_eq env request.settings config found request.file

/-- The content of the line with a number, if there is one. -/
def numberedLine? (doc : Document) (number : Nat) : Option Text :=
  if number = 0 then none else doc.line? (number - 1)

theorem numberedLine?_eq_none_iff {doc : Document} {number : Nat} :
    numberedLine? doc number = none ↔ number = 0 ∨ doc.lineCount < number := by
  rw [numberedLine?, Document.line?, Document.lineCount]
  by_cases hzero : number = 0
  · simp [hzero]
  · simp [hzero]
    omega

theorem Reaches.numberedLine?_eq {env : Environment} {request : EditRequest} {spot : Spot}
    (h : Reaches env request spot) (language : Text) :
    numberedLine? (.ofText language spot.text) request.line = some spot.line.content := by
  have hpos : request.line ≠ 0 := by
    rw [← h.number_eq]
    exact Nat.succ_ne_zero _
  rw [numberedLine?, if_neg hpos, h.line?_eq]

/-! ## What a command answers -/

/-- A command that misses its line fails, whatever it would do there. -/
theorem Misses.exists_failure [PatternEngine] {env : Environment} {request : EditRequest}
    (h : Misses env request) :
    ∃ failure notes, (∀ place, failure ≠ .lineGone place) ∧
      ∀ act, withTarget env request act = .failed failure notes := by
  cases hconfig : Config.load env.tree env.directory with
  | error fault =>
      refine ⟨.config fault, [], by simp, ?_⟩
      intro act
      simp only [withTarget, start_eq, hconfig]
  | ok loaded =>
  cases hfile : env.tree.read env.directory request.file with
  | error fault =>
      refine ⟨.unreadable request.file fault,
        (session env request loaded.1 loaded.2).configNote, by simp, ?_⟩
      intro act
      simp only [withTarget, start_eq, hconfig, load_session, hfile]
  | ok read =>
  have hline : numberedLine? (.ofText (request.language loaded.1) read.2) request.line = none := by
    rw [numberedLine?_eq_none_iff]
    simp only [Misses, hconfig, hfile, reduceCtorEq, exists_false, false_or, Except.ok.injEq] at h
    rcases h with hzero | ⟨place, text, rfl, hfar⟩
    · exact Or.inl hzero
    · exact Or.inr hfar
  let s := session env request loaded.1 loaded.2
  let file : SourceFile := ⟨request.file, read.1, .ofText (request.language loaded.1) read.2⟩
  refine ⟨.noSuchLine request.file request.line file.document.lineCount,
    s.configNote ++ s.fileNote file, by simp, ?_⟩
  intro act
  rw [numberedLine?] at hline
  simp only [withTarget, start_eq, hconfig, load_session, hfile, hline]
  rfl

/-- What a command does on the line that it reaches is a matter of the annotation there. -/
theorem Reaches.withTarget_eq [PatternEngine]
    {env : Environment} {request : EditRequest} {spot : Spot}
    (h : Reaches env request spot) {parsed : Option Choice}
    (hparse : Choice.parseWith? (request.token spot.config) spot.line.content = parsed) :
    ∃ found notes, ∀ act, withTarget env request act =
      { (match parsed with
        | none => refused env.colours
            (placeText request.file request.line ++ " has no checkbox annotation".toList)
        | some a => act (session env request spot.config found)
            (target request spot.config spot.place spot.text a)) with notes } := by
  obtain ⟨found, hconfig⟩ := h.config_loads
  have hline := h.numberedLine?_eq (request.language spot.config)
  rw [numberedLine?] at hline
  let s := session env request spot.config found
  let file : SourceFile :=
    ⟨request.file, spot.place, .ofText (request.language spot.config) spot.text⟩
  have hchoice : (file.document.token? s.commentSyntax >>= fun token =>
      Choice.parse? token spot.line.content) = parsed := hparse
  refine ⟨found, s.configNote ++ s.fileNote file, ?_⟩
  intro act
  simp only [withTarget, start_eq, hconfig, load_session, h.file_reads, hline]
  rw [hchoice]
  cases parsed <;> rfl

/-- The answers of a command that has reached its line, apart from its notes, with the facts
that decide between them. It refuses the line for one of three reasons, or it finishes with
the edit of the line. -/
inductive Answers [PatternEngine] (env : Environment) (request : EditRequest) (spot : Spot)
    (step : Line.Step) : Outcome → Prop where
  | unannotated
      (hparse : Choice.parseWith? (request.token spot.config) spot.line.content = none) :
      Answers env request spot step (refused env.colours
        (placeText request.file request.line ++ " has no checkbox annotation".toList))
  | unassigned {a : Choice}
      (hparse : Choice.parseWith? (request.token spot.config) spot.line.content = some a)
      (hoffered : step.Offered a) (hasg : a.assignment = none) :
      Answers env request spot step (refused env.colours
        (placeText request.file request.line ++ [' '] ++ "has no assignment to rewrite".toList))
  | foreign {a : Choice} {value : Text}
      (hparse : Choice.parseWith? (request.token spot.config) spot.line.content = some a)
      (hstep : step = .set value) (hforeign : value.trim ∉ a.candidates) :
      Answers env request spot step (refused env.colours
        (['"'] ++ value.trim ++ "\" is not a value of ".toList
          ++ placeText request.file request.line ++ " (expected one of: ".toList
          ++ Text.join ", ".toList a.candidates ++ [')']))
  | finished {a : Choice}
      (hparse : Choice.parseWith? (request.token spot.config) spot.line.content = some a)
      (hoffered : step.Offered a) (hasg : a.assignment.isSome) :
      Answers env request spot step (finish env.colours request.apply
        (target request spot.config spot.place spot.text a)
        ⟨request.line - 1, spot.line.content,
          step.apply (request.token spot.config) spot.line.content⟩)

namespace Reaches

variable {env : Environment} {request : EditRequest} {spot : Spot}
  (h : Reaches env request spot)

include h

/-- An edit that the annotation offers is made, unless there is no assignment. -/
theorem answers_finishIfAny [PatternEngine] {a : Choice} {step : Line.Step}
    (hparse : Choice.parseWith? (request.token spot.config) spot.line.content = some a)
    (hoffered : step.Offered a) :
    Answers env request spot step (finishIfAny env.colours request.apply
      (target request spot.config spot.place spot.text a)
      (Document.Step.edit? (.ofText (request.language spot.config) spot.text)
        spot.config.commentSyntax ⟨request.line - 1, step⟩)) := by
  rw [h.edit?_eq]
  cases hasg : a.assignment with
  | none =>
      rw [Line.Step.edit?_eq_none hparse hasg]
      have hrefused : (target request spot.config spot.place spot.text a).choice.assignment.isNone =
          true := by
        rw [target, hasg]
        rfl
      simp only [Option.map_none, finishIfAny, hrefused, if_true]
      exact .unassigned hparse hoffered hasg
  | some asg =>
      have hsome : a.assignment.isSome := by rw [hasg]; rfl
      rw [Line.Step.edit?_eq_some hparse hsome]
      exact .finished hparse hoffered hsome

/-- **What a command answers.** On the line that it reaches, a command gives one of the
answers. -/
theorem exists_answer [PatternEngine] (step : Line.Step) :
    ∃ answer notes, Answers env request spot step answer ∧
      (step.command request).run env = { answer with notes } := by
  cases hparse : Choice.parseWith? (request.token spot.config) spot.line.content with
  | none =>
      obtain ⟨found, notes, hrun⟩ := h.withTarget_eq hparse
      refine ⟨_, notes, .unannotated hparse, ?_⟩
      cases step with
      | advance => rw [Line.Step.command, Command.run, toggle, hrun]
      | set value => rw [Line.Step.command, Command.run, set, hrun]
  | some a =>
      obtain ⟨found, notes, hrun⟩ := h.withTarget_eq hparse
      cases step with
      | advance =>
          refine ⟨_, notes, h.answers_finishIfAny hparse trivial, ?_⟩
          rw [Line.Step.command, Command.run, toggle, hrun]
          rfl
      | set value =>
          have hcandidate : a.isCandidate value.trim = true ↔ value.trim ∈ a.candidates :=
            List.contains_iff_mem
          by_cases hmem : value.trim ∈ a.candidates
          · -- The value is trimmed once by the command and once by the edit.
            have htrim (doc : Document) (syn : CommentSyntax) (index : Nat) :
                doc.set? syn index value.trim =
                  Document.Step.edit? doc syn ⟨index, .set value⟩ := by
              rw [Document.set?, Text.trim_trim]
              rfl
            refine ⟨_, notes, h.answers_finishIfAny hparse hmem, ?_⟩
            rw [Line.Step.command, Command.run, set, hrun]
            simp only [target, hcandidate, hmem, if_true, htrim]
            rfl
          · refine ⟨_, notes, .foreign hparse rfl hmem, ?_⟩
            rw [Line.Step.command, Command.run, set, hrun]
            simp only [target, hcandidate, hmem, if_false]

end Reaches

/-! ## The three cases -/

/-- Both commands fail in the same way if they miss their line. -/
theorem Misses.run_eq [PatternEngine]
    {env : Environment} {request : EditRequest} (h : Misses env request) :
    ∃ failure notes, (∀ place, failure ≠ .lineGone place) ∧
      ∀ step : Line.Step, (step.command request).run env = .failed failure notes := by
  obtain ⟨failure, notes, hfailure, hact⟩ := h.exists_failure
  refine ⟨failure, notes, hfailure, ?_⟩
  intro step
  cases step with
  | advance => rw [Line.Step.command, Command.run, toggle, hact]
  | set value => rw [Line.Step.command, Command.run, set, hact]

/-- A command that misses its line writes nothing. -/
theorem effect_of_misses [PatternEngine] {env : Environment} {request : EditRequest}
    (h : Misses env request) (step : Line.Step) :
    ((step.command request).run env).effect = (.error, none) := by
  obtain ⟨failure, notes, -, hrun⟩ := h.run_eq
  rw [hrun]
  rfl

namespace Reaches

variable {env : Environment} {request : EditRequest} {spot : Spot}
  (h : Reaches env request spot) {step : Line.Step}

include h

/-- A line that does not admit the step is refused. -/
theorem effect_of_not_admitted [PatternEngine]
    (hrefused : ¬ step.Admitted (request.token spot.config) spot.line.content) :
    ((step.command request).run env).effect = (.failure, none) := by
  obtain ⟨answer, notes, hanswer, hrun⟩ := h.exists_answer step
  rw [hrun]
  cases hanswer with
  | unannotated hparse => rfl
  | unassigned hparse hoffered hasg => rfl
  | foreign hparse hstep hforeign => rfl
  | finished hparse hoffered hasg => exact absurd ⟨_, hparse, hasg, hoffered⟩ hrefused

/-- A line that admits the step is written, if it changes and the command is to be
applied. -/
theorem effect_of_admitted [PatternEngine]
    (hadmitted : step.Admitted (request.token spot.config) spot.line.content) :
    ((step.command request).run env).effect =
      let replacement := step.apply (request.token spot.config) spot.line.content
      (.success, if request.apply ∧ replacement ≠ spot.line.content then
        some (spot.place, spot.textWith replacement) else none) := by
  obtain ⟨a, hparse, hasg, hoffered⟩ := hadmitted
  obtain ⟨answer, notes, hanswer, hrun⟩ := h.exists_answer step
  rw [hrun]
  cases hanswer with
  | unannotated hparse' => cases hparse.symm.trans hparse'
  | unassigned hparse' hoffered' hasg' =>
      cases hparse.symm.trans hparse'
      rw [hasg'] at hasg
      cases hasg
  | foreign hparse' hstep hforeign =>
      cases hparse.symm.trans hparse'
      rw [hstep] at hoffered
      exact absurd hoffered hforeign
  | finished hparse' hoffered' hasg' => exact effect_finish _ _ (h.edited?_eq _ _ _)

end Reaches

/-! ## The number of the status -/

section Code

variable {env : Environment} {request : EditRequest} {step : Line.Step}

theorem code_of_misses [PatternEngine] (h : Misses env request) :
    ((step.command request).run env).status.code = 2 :=
  congrArg (·.1.code) (effect_of_misses h step)

theorem Reaches.code_of_not_admitted [PatternEngine] {spot : Spot} (h : Reaches env request spot)
    (hrefused : ¬ step.Admitted (request.token spot.config) spot.line.content) :
    ((step.command request).run env).status.code = 1 :=
  congrArg (·.1.code) (h.effect_of_not_admitted hrefused)

theorem Reaches.code_of_admitted [PatternEngine] {spot : Spot} (h : Reaches env request spot)
    (hadmitted : step.Admitted (request.token spot.config) spot.line.content) :
    ((step.command request).run env).status.code = 0 :=
  congrArg (·.1.code) (h.effect_of_admitted hadmitted)

/-- One of the three cases is at hand, and the number tells which one. -/
theorem code_cases [PatternEngine] (env : Environment) (request : EditRequest) (step : Line.Step) :
    let code := ((step.command request).run env).status.code
    (Misses env request ∧ code = 2) ∨
    (∃ spot, (Reaches env request spot ∧
      ¬ step.Admitted (request.token spot.config) spot.line.content) ∧ code = 1) ∨
    ∃ spot, (Reaches env request spot ∧
      step.Admitted (request.token spot.config) spot.line.content) ∧ code = 0 := by
  intro code
  rcases misses_or_reaches env request with h | ⟨spot, h⟩
  · exact Or.inl ⟨h, code_of_misses h⟩
  · by_cases hadmitted : step.Admitted (request.token spot.config) spot.line.content
    · exact Or.inr (Or.inr ⟨spot, ⟨h, hadmitted⟩, h.code_of_admitted hadmitted⟩)
    · exact Or.inr (Or.inl ⟨spot, ⟨h, hadmitted⟩, h.code_of_not_admitted hadmitted⟩)

end Code

/-! ## The files -/

/-- The command exchanges a line: it is to be applied, it reaches the line, and the line
admits the step and is changed by it. -/
structure Exchanges [PatternEngine]
    (env : Environment) (request : EditRequest) (step : Line.Step) (spot : Spot) :
    Prop extends Reaches env request spot where
  applied : request.apply = true
  admitted : step.Admitted (request.token spot.config) spot.line.content
  changed : step.apply (request.token spot.config) spot.line.content ≠ spot.line.content

theorem treeAfter_eq (outcome : Outcome) (tree : FileTree) :
    outcome.treeAfter tree = match outcome.effect.2 with
      | none => tree
      | some (place, content) => tree.write place content := rfl

/-- The files after a command that reaches a line which admits the step. -/
theorem Reaches.treeAfter_of_admitted [PatternEngine]
    {env : Environment} {request : EditRequest} {spot : Spot}
    (h : Reaches env request spot) {step : Line.Step}
    (hadmitted : step.Admitted (request.token spot.config) spot.line.content) :
    ((step.command request).run env).treeAfter env.tree =
      if request.apply ∧
          step.apply (request.token spot.config) spot.line.content ≠ spot.line.content then
        env.tree.write spot.place
          (spot.textWith (step.apply (request.token spot.config) spot.line.content))
      else env.tree := by
  rw [Editing.treeAfter_eq, h.effect_of_admitted hadmitted]
  generalize step.apply (request.token spot.config) spot.line.content = replacement
  by_cases hwritten : request.apply ∧ replacement ≠ spot.line.content
  · simp only [if_pos hwritten]
  · simp only [if_neg hwritten]

variable {env : Environment} {request : EditRequest} {step : Line.Step}

/-- Where a line is exchanged, the file is written with the new line. -/
theorem Exchanges.treeAfter_eq [PatternEngine] {spot : Spot} (h : Exchanges env request step spot) :
    ((step.command request).run env).treeAfter env.tree = env.tree.write spot.place
      (spot.textWith (step.apply (request.token spot.config) spot.line.content)) := by
  rw [h.treeAfter_of_admitted h.admitted, if_pos ⟨h.applied, h.changed⟩]

/-- Where no line is exchanged, nothing is written. -/
theorem treeAfter_eq_self [PatternEngine] (h : ¬ ∃ spot, Exchanges env request step spot) :
    ((step.command request).run env).treeAfter env.tree = env.tree := by
  rcases misses_or_reaches env request with hmisses | ⟨spot, hreaches⟩
  · rw [treeAfter_eq, effect_of_misses hmisses]
  · by_cases hadmitted : step.Admitted (request.token spot.config) spot.line.content
    · have hkept : ¬ (request.apply = true ∧
          step.apply (request.token spot.config) spot.line.content ≠ spot.line.content) :=
        fun ⟨happlied, hchanged⟩ => h ⟨spot, hreaches, happlied, hadmitted, hchanged⟩
      rw [hreaches.treeAfter_of_admitted hadmitted, if_neg hkept]
    · rw [treeAfter_eq, hreaches.effect_of_not_admitted hadmitted]

/-- Another content makes another text. -/
theorem Spot.textWith_injective (spot : Spot) : Function.Injective spot.textWith := by
  intro content content' h
  simpa [textWith] using h

/-- Exchanging a line changes the file in which the line stands, and no other one. -/
theorem Exchanges.nodeAt?_ne_iff [PatternEngine] {spot : Spot} (h : Exchanges env request step spot)
    (place : Location) :
    (((step.command request).run env).treeAfter env.tree).nodeAt? place ≠
      env.tree.nodeAt? place ↔ place = spot.place := by
  rw [h.treeAfter_eq, FileTree.write]
  by_cases hplace : place = spot.place
  · have hold := FileTree.nodeAt?_of_read h.file_reads
    rw [h.text_eq] at hold
    simp only [hplace, if_true, hold, iff_true]
    intro heq
    exact h.changed (spot.textWith_injective (by simpa using heq))
  · simp only [hplace, if_false, ne_eq, not_true_eq_false]

/-- **What an editing command does.** A file changes if and only if the command is to be
applied and reaches a line in this file that admits the step and is changed by it; then
the line is exchanged in the text of the file, and nothing else. The command ends with
an error if it misses the line, with a failure if the line does not admit the step, and
with success otherwise. -/
theorem edit_command_effect [PatternEngine]
    (env : Environment) (request : EditRequest) (step : Line.Step) :
    let outcome := (step.command request).run env
    let after := outcome.treeAfter env.tree
    (∀ place, after.nodeAt? place ≠ env.tree.nodeAt? place ↔
      ∃ spot, Exchanges env request step spot ∧ place = spot.place) ∧
    (∀ spot, Exchanges env request step spot →
      env.tree.nodeAt? spot.place = some (.file (some (spot.textWith spot.line.content))) ∧
      after.nodeAt? spot.place = some (.file (some
        (spot.textWith (step.apply (request.token spot.config) spot.line.content))))) ∧
    (outcome.status.code = 2 ↔ Misses env request) ∧
    (outcome.status.code = 1 ↔ ¬ Misses env request ∧ ∃ spot, Reaches env request spot ∧
      ¬ step.Admitted (request.token spot.config) spot.line.content) ∧
    (outcome.status.code = 0 ↔ ¬ Misses env request ∧ ∃ spot, Reaches env request spot ∧
      step.Admitted (request.token spot.config) spot.line.content) := by
  intro outcome after
  refine ⟨fun place => ⟨fun hchange => ?_, ?_⟩, fun spot h => ⟨?_, ?_⟩, ?_⟩
  · by_cases h : ∃ spot, Exchanges env request step spot
    · obtain ⟨spot, h⟩ := h
      exact ⟨spot, h, (h.nodeAt?_ne_iff place).mp hchange⟩
    · exact absurd (congrArg (·.nodeAt? place) (treeAfter_eq_self h)) hchange
  · rintro ⟨spot, h, hplace⟩
    exact (h.nodeAt?_ne_iff place).mpr hplace
  · rw [← h.text_eq]
    exact FileTree.nodeAt?_of_read h.file_reads
  · rw [show after = _ from h.treeAfter_eq]
    exact if_pos rfl
  · have hcases := code_cases env request step
    refine ⟨⟨fun hcode => ?_, code_of_misses⟩, ⟨fun hcode => ?_, ?_⟩, ⟨fun hcode => ?_, ?_⟩⟩
    · rcases hcases with ⟨h, -⟩ | ⟨spot, -, hone⟩ | ⟨spot, -, hzero⟩
      · exact h
      · cases hone.symm.trans hcode
      · cases hzero.symm.trans hcode
    · rcases hcases with ⟨-, htwo⟩ | ⟨spot, h, -⟩ | ⟨spot, -, hzero⟩
      · cases htwo.symm.trans hcode
      · exact ⟨h.1.not_misses, spot, h⟩
      · cases hzero.symm.trans hcode
    · rintro ⟨-, spot, h, hrefused⟩
      exact h.code_of_not_admitted hrefused
    · rcases hcases with ⟨-, htwo⟩ | ⟨spot, -, hone⟩ | ⟨spot, h, -⟩
      · cases htwo.symm.trans hcode
      · cases hone.symm.trans hcode
      · exact ⟨h.1.not_misses, spot, h⟩
    · rintro ⟨-, spot, h, hadmitted⟩
      exact h.code_of_admitted hadmitted

section

open scoped PatternEngine

/-- The value of the second line is set in a file with carriage returns, with the comment
token of the default configuration. -/
theorem edit_command_effect_carriage_returns :
    let env : Environment :=
      { tree := .ofEntries [(["w".toList, "a".toList],
          .file (some "x = 1\r\nv = a -- [CB]:a|b\r\nend".toList))]
        directory := ["w".toList]
        colours := false }
    let request : EditRequest :=
      { file := "./a".toList, line := 2, apply := true, settings := ⟨some "sql".toList, false⟩ }
    let outcome := (Line.Step.command request (.set " b ".toList)).run env
    (outcome.treeAfter env.tree).nodeAt? ["w".toList, "a".toList] =
        some (.file (some "x = 1\r\nv = b -- [CB]:a|b\r\nend".toList)) ∧
      outcome.status.code = 0 := by
  intro env request outcome
  let spot : Spot :=
    { config := .default
      place := ["w".toList, "a".toList]
      text := "x = 1\r\nv = a -- [CB]:a|b\r\nend".toList
      above := [⟨"x = 1".toList, .carriageReturnLineFeed⟩]
      line := ⟨"v = a -- [CB]:a|b".toList, .carriageReturnLineFeed⟩
      below := [⟨"end".toList, .endOfText⟩] }
  have hreaches : Reaches env request spot := ⟨⟨none, rfl⟩, rfl, rfl, rfl⟩
  have htoken : request.token spot.config = "--".toList := rfl
  have hparse : Choice.parseWith? "--".toList spot.line.content =
      some ⟨⟨"--".toList, by decide⟩, some ⟨"v =".toList, "a".toList, 4⟩,
        ["a".toList, "b".toList], "-- [CB]:a|b".toList, 6⟩ := rfl
  have hstep : (Line.Step.set " b ".toList).apply "--".toList spot.line.content =
      "v = b -- [CB]:a|b".toList := rfl
  have hadmitted : (Line.Step.set " b ".toList).Admitted (request.token spot.config)
      spot.line.content := by
    rw [htoken]
    exact ⟨_, hparse, rfl, by decide⟩
  have hexchanges : Exchanges env request (.set " b ".toList) spot :=
    ⟨hreaches, rfl, hadmitted, by rw [htoken, hstep]; decide⟩
  obtain ⟨-, htexts, -, -, hsuccess⟩ := edit_command_effect env request (.set " b ".toList)
  have hnode := (htexts spot hexchanges).2
  rw [htoken, hstep] at hnode
  exact ⟨hnode, hsuccess.mpr ⟨hreaches.not_misses, spot, hreaches, hadmitted⟩⟩

end

end Editing

end InlineChoice
