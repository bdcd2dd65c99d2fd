import InlineChoice.Proofs.Edit

/-!
# Histories of edits

A history is a list of steps on one line. Each step parses the line that the
step before it has left, so the text is the only state. Beside it stands a
machine whose whole state is the value: an advance replaces the value by the
next candidate, and a setting replaces it by the given one.

`Step.simulates` is one square of the simulation between the two, and
`run_simulates` closes it under histories. The invariant is `Frame.Reads`: after
every step the line parses to the frame of the first line, with the value of the
machine. `run_eq_write` is the outcome for the text: a history writes the last
value of the machine into the frame, and nothing else of it is left.
-/

namespace InlineChoice

namespace Line

/-- One step of a history. -/
inductive Step where
  /-- Move to the next candidate. -/
  | advance
  /-- Write a value, trimmed. -/
  | set (value : Text)

namespace Step

/-- The step on a line. -/
def apply [PatternEngine] (token : Text) : Step → Text → Text
  | advance, line => Line.advance token line
  | set value, line => Line.setValue token value line

/-- The step on a value. -/
def value? (candidates : List Text) : Step → Option Text → Option Text
  | advance, current => nextValue? candidates current
  | set value, _ => some value.trim

/-- The step writes no tag, unless a candidate holds one. -/
def TagFree : Step → Prop
  | advance => True
  | set value => ¬ Marker.tag <:+: value.trim

end Step

/-- The line after a history. -/
def run [PatternEngine] (token : Text) (steps : List Step) (line : Text) : Text :=
  steps.foldl (fun line step => step.apply token line) line

/-- The value after a history. -/
def runValue? (candidates : List Text) (steps : List Step) (value : Option Text) :
    Option Text :=
  steps.foldl (fun value step => step.value? candidates value) value

@[simp] theorem run_cons [PatternEngine]
    (token : Text) (step : Step) (steps : List Step) (line : Text) :
    run token (step :: steps) line = run token steps (step.apply token line) := rfl

@[simp] theorem runValue?_cons (candidates : List Text) (step : Step) (steps : List Step)
    (value : Option Text) :
    runValue? candidates (step :: steps) value =
      runValue? candidates steps (step.value? candidates value) := rfl

/-! ## The simulation -/

section Simulation

variable {frame : Frame} {token : CommentToken} (plain : Marker.PlainToken token.text)
  (hcand : ∀ c ∈ frame.candidates, ¬ Marker.tag <:+: c)

include plain hcand

/-- **One step.** Where the line reads as the frame and a value, the step writes
the value of the machine into the frame, and the written line reads so again. -/
theorem Step.simulates [PatternEngine] {line w : Text} (h : frame.Reads token line w) {step : Step}
    (hstep : step.TagFree) :
    ∃ w', step.value? frame.candidates (some w) = some w' ∧
      step.apply token.text line = frame.write w' ∧
      frame.Reads token (frame.write w') w' := by
  cases step with
  | advance =>
      obtain ⟨next, hmem, hnext, hadvance⟩ := h.advance_eq
      exact ⟨next, hnext, hadvance, h.write plain (h.trim_candidate hmem) (hcand next hmem)⟩
  | set value =>
      exact ⟨value.trim, rfl, h.setValue_eq value,
        h.write plain (Text.trim_trim value) hstep⟩

/-- **A whole history.** The line always reads as the frame of the first line
and the value of the machine; from the first step on it is the written frame. -/
theorem run_simulates [PatternEngine] {steps : List Step} (hsteps : ∀ step ∈ steps, step.TagFree)
    {line w : Text} (h : frame.Reads token line w) :
    ∃ w', runValue? frame.candidates steps (some w) = some w' ∧
      frame.Reads token (run token.text steps line) w' ∧
      (steps ≠ [] → run token.text steps line = frame.write w') := by
  induction steps generalizing line w with
  | nil => exact ⟨w, rfl, h, fun hne => absurd rfl hne⟩
  | cons step steps ih =>
      obtain ⟨v, hvalue, happly, hreads⟩ :=
        Step.simulates plain hcand h (hsteps step List.mem_cons_self)
      obtain ⟨w', hrun, hreads', hwrite⟩ :=
        ih (fun s hs => hsteps s (List.mem_cons_of_mem step hs)) hreads
      refine ⟨w', by rw [runValue?_cons, hvalue, hrun], ?_, fun _ => ?_⟩
      · rwa [run_cons, happly]
      · rw [run_cons, happly]
        cases steps with
        | nil =>
            obtain rfl : v = w' := Option.some.inj hrun
            rfl
        | cons next rest => exact hwrite (List.cons_ne_nil next rest)

end Simulation

/-! ## What is left of a history -/

/-- **A history collapses to its last value.** For a plain token and candidates
without the tag, any steps of which at least one is made leave the target, the
last value of the machine between single spaces, the marker and the tail. The
line still parses to that value and to the same candidates. -/
theorem run_eq_write [PatternEngine]
    {token line : Text} {a : Choice} {asg : Assignment} {steps : List Step}
    (plain : Marker.PlainToken token) (hparse : Choice.parseWith? token line = some a)
    (hasg : a.assignment = some asg) (hcand : ∀ c ∈ a.candidates, ¬ Marker.tag <:+: c)
    (hsteps : ∀ step ∈ steps, step.TagFree) (hne : steps ≠ []) :
    ∃ w tail b, runValue? a.candidates steps a.value? = some w ∧
      line.dropBytes? a.markerRange.stop = some tail ∧
      run token steps line = asg.target ++ [' '] ++ w ++ [' '] ++ a.marker ++ tail ∧
      Choice.parseWith? token (run token steps line) = some b ∧
      b.value? = some w ∧ b.candidates = a.candidates := by
  obtain ⟨token, before, after, tail, rfl, parts, hreads⟩ := Frame.exists_reads hparse hasg
  obtain ⟨w, hvalue, hreads', hwrite⟩ := run_simulates plain hcand hsteps hreads
  obtain ⟨b, hparse', hcand', hvalue', -⟩ := hreads'.withValue?_eq
  refine ⟨w, tail, b, ?_, parts.dropBytes?, hwrite hne, hparse', hvalue', hcand'⟩
  rw [Choice.value?, hasg]
  exact hvalue

section

open scoped PatternEngine

/-- The first value holds the tag, and a value on the way holds the token. -/
theorem run_eq_write_from_tag :
    ∃ w tail b,
      runValue? ["a".toList, "b".toList]
        [.advance, .set " q=// ".toList, .advance, .advance] (some "[CB]:".toList) = some w ∧
      Text.dropBytes? 21 "v =[CB]:  // [CB]:a|b||".toList = some tail ∧
      run "//".toList [.advance, .set " q=// ".toList, .advance, .advance]
        "v =[CB]:  // [CB]:a|b||".toList =
          "v =".toList ++ [' '] ++ w ++ [' '] ++ "// [CB]:a|b".toList ++ tail ∧
      Choice.parseWith? "//".toList
        (run "//".toList [.advance, .set " q=// ".toList, .advance, .advance]
          "v =[CB]:  // [CB]:a|b||".toList) = some b ∧
      b.value? = some w ∧ b.candidates = ["a".toList, "b".toList] := by
  have plain : Marker.PlainToken "//".toList := by decide
  have hparse : Choice.parseWith? "//".toList "v =[CB]:  // [CB]:a|b||".toList =
      some ⟨⟨"//".toList, by decide⟩, some ⟨"v =".toList, "[CB]:".toList, 3⟩,
        ["a".toList, "b".toList], "// [CB]:a|b".toList, 10⟩ := rfl
  have hsteps : ∀ step ∈ [Step.advance, .set " q=// ".toList, .advance, .advance],
      step.TagFree := by
    simp only [List.mem_cons, List.not_mem_nil, or_false, forall_eq_or_imp, forall_eq,
      Step.TagFree, true_and, and_true]
    decide
  exact run_eq_write plain hparse rfl (by decide) hsteps (List.cons_ne_nil _ _)

end

end Line

end InlineChoice
