import InlineChoice.Proofs.Checking
import InlineChoice.Proofs.ConfigTokens
import InlineChoice.Proofs.EditCommand
import InlineChoice.Proofs.ReadBack

/-!
# What a successful edit leaves behind

An edit that ends with success has rewritten its line (`Editing.Rewrites`), and this
determines the line, the value that was chosen, and the text of the file afterwards.

Values are written as they are and the leftmost marker of a line counts, so the chosen
value is not always read back. `edit_reads_back` says exactly when it is, for every
configuration that loads; such a configuration gives unbroken tokens
(`Config.unbroken_of_load`). Where the value is read back, a check has nothing to say about
the line, provided that the token of the file is still the same: an edit of the
configuration in force may change it. `edit_not_read_back` shows that neither condition
can be dropped.
-/

namespace InlineChoice

open TerminatedLine (Fits WellCut)

/-! ## The line -/

/-- A value that is read back and is a candidate is valid. -/
theorem Line.ReadsBack.not_mismatched [PatternEngine] {token line : Text} {candidates : List Text}
    {value : Text} (h : Line.ReadsBack token line candidates value) (hmem : value ∈ candidates) :
    ¬ Line.Mismatched token line := by
  obtain ⟨a, hparse, rfl, hvalue⟩ := h
  rintro ⟨b, value', hparse', hvalue', -, hforeign⟩
  obtain rfl : a = b := Option.some.inj (hparse.symm.trans hparse')
  obtain rfl : value = value' := Option.some.inj (hvalue.symm.trans hvalue')
  exact hforeign hmem

/-- A step that the annotation offers writes one of its candidates. -/
theorem Frame.Reads.exists_chosen [PatternEngine]
    {frame : Frame} {token : CommentToken} {line w : Text}
    (h : frame.Reads token line w) {a : Choice} (hcand : a.candidates = frame.candidates)
    {step : Line.Step} (hoffered : step.Offered a) :
    ∃ chosen ∈ frame.candidates, step.value? frame.candidates (some w) = some chosen ∧
      step.apply token.text line = frame.write chosen := by
  cases step with
  | advance =>
      obtain ⟨next, hmem, hnext, hadvance⟩ := h.advance_eq
      exact ⟨next, hmem, hnext, hadvance⟩
  | set value => exact ⟨value.trim, hcand ▸ hoffered, rfl, h.setValue_eq value⟩

namespace Editing

/-- What an editing command makes of its line. -/
structure Rewriting where
  spot : Spot
  choice : Choice
  assignment : Assignment
  /-- The value that the command writes. -/
  chosen : Text
  /-- The text behind the marker. -/
  tail : Text

namespace Rewriting

/-- The new text in front of the marker. -/
def front (r : Rewriting) : Text :=
  r.assignment.target ++ [' '] ++ r.chosen ++ [' ']

/-- The new line. -/
def line (r : Rewriting) : Text :=
  r.front ++ r.choice.marker ++ r.tail

end Rewriting

/-- The command rewrites its line so, and the file has the new line in its place
afterwards. -/
structure Rewrites [PatternEngine] (env : Environment) (request : EditRequest) (step : Line.Step)
    (r : Rewriting) : Prop where
  reaches : Reaches env request r.spot
  parses : Choice.parseWith? (request.token r.spot.config) r.spot.line.content = some r.choice
  assigns : r.choice.assignment = some r.assignment
  keeps : r.spot.line.content.dropBytes? r.choice.markerRange.stop = some r.tail
  chooses : step.value? r.choice.candidates r.choice.value? = some r.chosen
  is_candidate : r.chosen ∈ r.choice.candidates
  file_after : (((step.command request).run env).treeAfter env.tree).read env.directory
    request.file = .ok (r.spot.place, r.spot.textWith r.line)
  lines_after : TerminatedLine.ofText (r.spot.textWith r.line) =
    r.spot.above ++ { r.spot.line with content := r.line } :: r.spot.below

/-! ## The file -/

namespace Reaches

variable {env : Environment} {request : EditRequest} {spot : Spot} {step : Line.Step}
  (h : Reaches env request spot)

include h

theorem wellCut : WellCut (spot.above ++ spot.line :: spot.below) := by
  rw [← h.lines_eq]
  exact TerminatedLine.wellCut_ofText spot.text

theorem feedFree_line : '\n' ∉ spot.line.content :=
  (h.wellCut.proper spot.line (by simp)).1

/-- The lines of the file with another content on the line. -/
theorem ofText_textWith {content : Text} (hfits : Fits content spot.line.content) :
    TerminatedLine.ofText (spot.textWith content) =
      spot.above ++ { spot.line with content } :: spot.below := by
  have hline : (spot.above ++ spot.line :: spot.below)[spot.above.length]? = some spot.line := by
    simp
  have hset : (spot.above ++ spot.line :: spot.below).set spot.above.length
      { spot.line with content } = spot.above ++ { spot.line with content } :: spot.below := by
    simp
  have hwell := h.wellCut.set hline hfits
  rw [hset] at hwell
  rw [← TerminatedLine.ofText_toText hwell]
  simp [Spot.textWith, TerminatedLine.toText, TerminatedLine.text]

/-- The command leaves the file with the new line. -/
theorem read_treeAfter [PatternEngine]
    (hadmitted : step.Admitted (request.token spot.config) spot.line.content)
    (happly : request.apply = true) :
    (((step.command request).run env).treeAfter env.tree).read env.directory request.file =
      .ok (spot.place,
        spot.textWith (step.apply (request.token spot.config) spot.line.content)) := by
  rw [h.treeAfter_of_admitted hadmitted]
  split
  · exact FileTree.read_write_self h.file_reads _
  · next hkept =>
      have hsame : step.apply (request.token spot.config) spot.line.content =
          spot.line.content := by
        by_contra hchanged
        exact hkept ⟨happly, hchanged⟩
      rw [hsame, ← h.text_eq]
      exact h.file_reads

/-- The configuration stays in force, unless it is the file of the line. -/
theorem load_treeAfter [PatternEngine]
    (hadmitted : step.Admitted (request.token spot.config) spot.line.content)
    (hother : Config.find? env.tree env.directory ≠ some spot.place) :
    Config.load (((step.command request).run env).treeAfter env.tree) env.directory =
      Config.load env.tree env.directory := by
  rw [h.treeAfter_of_admitted hadmitted]
  split
  · exact Config.load_write (FileTree.nodeAt?_of_read h.file_reads) _ hother
  · rfl

theorem exists_rewrites [PatternEngine]
    (hadmitted : step.Admitted (request.token spot.config) spot.line.content)
    (happly : request.apply = true) : ∃ r, r.spot = spot ∧ Rewrites env request step r := by
  obtain ⟨a, hparse, hasg, hoffered⟩ := id hadmitted
  obtain ⟨asg, hasg⟩ := Option.isSome_iff_exists.mp hasg
  obtain ⟨t, before, after, tail, htoken, parts, hreads⟩ := Frame.exists_reads hparse hasg
  obtain ⟨chosen, hmem, hvalue, hwrite⟩ := hreads.exists_chosen rfl hoffered
  have hfile := h.read_treeAfter hadmitted happly
  rw [← htoken, hwrite] at hfile
  have hchosen : '\n' ∉ chosen :=
    fun hfeed => h.feedFree_line (hreads.mem_line_of_mem_candidate hmem hfeed)
  have hfits := hreads.fits_write h.feedFree_line hchosen
  refine ⟨⟨spot, a, asg, chosen, tail⟩, rfl, ?_⟩
  exact
    { reaches := h
      parses := hparse
      assigns := hasg
      keeps := parts.dropBytes?
      chooses := by rw [Choice.value?, hasg]; exact hvalue
      is_candidate := hmem
      file_after := hfile
      lines_after := h.ofText_textWith hfits }

end Reaches

namespace Rewrites

variable [PatternEngine] {env : Environment} {request : EditRequest} {step : Line.Step}
  {r : Rewriting} (h : Rewrites env request step r)

include h

theorem unbroken : Marker.UnbrokenToken (request.token r.spot.config) := by
  obtain ⟨found, hload⟩ := h.reaches.config_loads
  exact Config.unbroken_of_load hload _

/-- The old line reads as a frame around its value. -/
theorem exists_reads : ∃ t : CommentToken, t.text = request.token r.spot.config ∧
    Frame.Reads ⟨r.assignment.target, r.choice.marker, r.tail, r.choice.candidates⟩ t
      r.spot.line.content r.assignment.value := by
  obtain ⟨t, before, after, tail, htoken, parts, hreads⟩ := Frame.exists_reads h.parses h.assigns
  obtain rfl : tail = r.tail := Option.some.inj (parts.dropBytes?.symm.trans h.keeps)
  exact ⟨t, htoken, hreads⟩

/-- What was chosen is read back unless a marker stands in front of the old one. -/
theorem readsBack_iff :
    Line.ReadsBack (request.token r.spot.config) r.line r.choice.candidates r.chosen ↔
      ¬ Grammar.MarkerBefore (request.token r.spot.config) r.line r.front.byteSize := by
  obtain ⟨t, htoken, hreads⟩ := h.exists_reads
  have hunbroken := h.unbroken
  rw [← htoken] at hunbroken ⊢
  exact hreads.readsBack_write_iff hunbroken (hreads.candidate_ne_nil h.is_candidate)
    (hreads.trim_candidate h.is_candidate)

/-- What was chosen is read back if it does not contain the tag. -/
theorem readsBack_of_tagFree (htag : ¬ Marker.tag <:+: r.chosen) :
    Line.ReadsBack (request.token r.spot.config) r.line r.choice.candidates r.chosen := by
  obtain ⟨t, htoken, hreads⟩ := h.exists_reads
  have hunbroken := h.unbroken
  rw [← htoken] at hunbroken ⊢
  exact (hreads.write_of_tagFree hunbroken (hreads.candidate_ne_nil h.is_candidate)
    (hreads.trim_candidate h.is_candidate) htag).readsBack

/-- Where the chosen value is read back, a check does not complain about the line. -/
theorem check_clean
    (hback : Line.ReadsBack (request.token r.spot.config) r.line r.choice.candidates r.chosen)
    {config : Config} {found : Option Location} {settings : Settings}
    (hload : Config.load (((step.command request).run env).treeAfter env.tree) env.directory =
      .ok (config, found))
    (htoken : settings.tokenOf config request.file = request.token r.spot.config) :
    let env' := { env with tree := ((step.command request).run env).treeAfter env.tree }
    ((Command.check ⟨[request.file], settings⟩).run env').status.code ≠ 2 ∧
      ∀ issue ∈ Checking.findings env' ⟨[request.file], settings⟩,
        ∃ place, issue.place? = some place ∧ place.line ≠ request.line := by
  intro env'
  have hfile : env'.tree.read env'.directory request.file =
      .ok (r.spot.place, r.spot.textWith r.line) := h.file_after
  have hpath : ∀ {argument path}, [request.file][argument]? = some path → path = request.file :=
    fun hasked => List.mem_singleton.mp (List.mem_of_getElem? hasked)
  have hreadable : ¬ ∃ argument,
      (Checking.Site.file argument).Faulty env' ⟨[request.file], settings⟩ config := by
    rintro ⟨argument, path, fault, hasked, hread⟩
    rw [hpath hasked] at hread
    cases hfile.symm.trans hread
  refine ⟨fun hcode => ?_, fun issue hissue => ?_⟩
  · exact hreadable ((Checking.code_run _ hload).2.1.mp hcode).1
  · obtain ⟨site, hreports⟩ := (Checking.mem_findings_iff _ hload).mp hissue
    cases site with
    | file argument =>
        exact absurd ⟨argument, Checking.exists_reports_iff.mp ⟨issue, hreports⟩⟩ hreadable
    | line argument index =>
        obtain ⟨path, place, text, content, hasked, hread, hline, hdescribes⟩ := hreports
        obtain rfl := hpath hasked
        cases hfile.symm.trans hread
        have hmismatched := hdescribes.mismatched
        obtain ⟨a, asg, front, -, -, -, -, -, rfl⟩ := hdescribes
        refine ⟨_, rfl, fun hnumber => ?_⟩
        have hindex : index = r.spot.above.length :=
          Nat.add_right_cancel (hnumber.trans h.reaches.number_eq.symm)
        obtain rfl : r.line = content := by simpa [h.lines_after, hindex] using hline
        exact hback.not_mismatched h.is_candidate (htoken ▸ hmismatched)

end Rewrites

/-- **What a successful edit leaves behind.** A command that is to be applied and ends with
success rewrites its line. The chosen value is read back, with the candidates as they were,
if and only if no marker stands in front of the old one in the new line; this is so
whenever the value does not contain the tag. A check of the file then reads it and finds
nothing on this line, if the configuration in force gives the file the same token; and it
is the same configuration, if it is not the file that was written. -/
theorem edit_reads_back [PatternEngine]
    (env : Environment) (request : EditRequest) (step : Line.Step)
    (happly : request.apply = true)
    (hcode : ((step.command request).run env).status.code = 0) :
    let after := ((step.command request).run env).treeAfter env.tree
    ∃ r, Rewrites env request step r ∧
      let token := request.token r.spot.config
      let back := Line.ReadsBack token r.line r.choice.candidates r.chosen
      (back ↔ ¬ Grammar.MarkerBefore token r.line r.front.byteSize) ∧
      (¬ Marker.tag <:+: r.chosen → back) ∧
      (back → ∀ config found settings, Config.load after env.directory = .ok (config, found) →
        settings.tokenOf config request.file = token →
        ((Command.check ⟨[request.file], settings⟩).run { env with tree := after }).status.code ≠
          2 ∧
        ∀ issue ∈ Checking.findings { env with tree := after } ⟨[request.file], settings⟩,
          ∃ place, issue.place? = some place ∧ place.line ≠ request.line) ∧
      (Config.find? env.tree env.directory ≠ some r.spot.place →
        Config.load after env.directory = Config.load env.tree env.directory) := by
  intro after
  obtain ⟨spot, hreaches, hadmitted⟩ : ∃ spot, Reaches env request spot ∧
      step.Admitted (request.token spot.config) spot.line.content := by
    rcases code_cases env request step with ⟨-, htwo⟩ | ⟨spot, -, hone⟩ | ⟨spot, h, -⟩
    · cases htwo.symm.trans hcode
    · cases hone.symm.trans hcode
    · exact ⟨spot, h⟩
  obtain ⟨r, rfl, h⟩ := hreaches.exists_rewrites hadmitted happly
  exact ⟨r, h, h.readsBack_iff, h.readsBack_of_tagFree,
    fun hback config found settings hload htoken => h.check_clean hback hload htoken,
    hreaches.load_treeAfter hadmitted⟩

section

open scoped PatternEngine

/-- The value that is written holds an `=` sign and the token. -/
theorem edit_reads_back_token_in_value :
    let env : Environment :=
      { tree := .ofEntries [(["w".toList, "a".toList],
          .file (some "x = 1\r\nv = a -- [CB]:a|b=--c\r\nend".toList))]
        directory := ["w".toList]
        colours := false }
    let request : EditRequest :=
      { file := "./a".toList, line := 2, apply := true, settings := ⟨some "sql".toList, false⟩ }
    let outcome := (Line.Step.advance.command request).run env
    let env' := { env with tree := outcome.treeAfter env.tree }
    request.apply = true ∧ outcome.status.code = 0 ∧
      Line.ReadsBack "--".toList "v = b=--c -- [CB]:a|b=--c".toList
        ["a".toList, "b=--c".toList] "b=--c".toList ∧
      ∀ issue ∈ Checking.findings env' ⟨[request.file], request.settings⟩,
        ∃ place, issue.place? = some place ∧ place.line ≠ 2 := by
  intro env request outcome env'
  have hcode : outcome.status.code = 0 := rfl
  let spot : Spot :=
    { config := .default
      place := ["w".toList, "a".toList]
      text := "x = 1\r\nv = a -- [CB]:a|b=--c\r\nend".toList
      above := [⟨"x = 1".toList, .carriageReturnLineFeed⟩]
      line := ⟨"v = a -- [CB]:a|b=--c".toList, .carriageReturnLineFeed⟩
      below := [⟨"end".toList, .endOfText⟩] }
  have hreaches : Reaches env request spot := ⟨⟨none, rfl⟩, rfl, rfl, rfl⟩
  have hparse : Choice.parseWith? "--".toList spot.line.content =
      some ⟨⟨"--".toList, by decide⟩, some ⟨"v =".toList, "a".toList, 4⟩,
        ["a".toList, "b=--c".toList], "-- [CB]:a|b=--c".toList, 6⟩ := rfl
  obtain ⟨⟨spot', a, asg, chosen, tail⟩, h, -, hfree, hcheck, hload⟩ :=
    edit_reads_back env request .advance rfl hcode
  obtain rfl : spot' = spot := h.reaches.unique hreaches
  obtain rfl := Option.some.inj (h.parses.symm.trans hparse)
  obtain rfl := Option.some.inj h.assigns
  obtain rfl := Option.some.inj h.chooses
  obtain rfl := Option.some.inj h.keeps
  have hback := hfree (by decide)
  have hother : Config.find? env.tree env.directory ≠ some spot.place := by decide
  have hconfig : Config.load env'.tree env'.directory = .ok (.default, none) := hload hother
  exact ⟨rfl, hcode, hback, (hcheck hback .default none request.settings hconfig rfl).2⟩

end

section

open scoped PatternEngine

/-- Two edits after which a check complains about the line. The first one writes a value
that holds the text of a marker, and the new line declares other candidates. The second one
edits the configuration, on a line that names the language of its own file: the value is
read back with the old token, but the new language has another one. -/
theorem edit_not_read_back :
    let settings : Settings := ⟨none, false⟩
    let read (token line : Text) := (Choice.parseWith? token line).map
      fun a => (a.candidates, a.value?)
    let reported (env : Environment) (path : Text) (number : Nat) :=
      (Checking.findings env ⟨[path], settings⟩).any
        fun issue => issue.place?.any fun place => place.line = number
    -- The first edit.
    let old : Text := "x = a # [CB]: a|q # [CB]: z".toList
    let new : Text := "x = q # [CB]: z # [CB]: a|q # [CB]: z".toList
    let env : Environment :=
      { tree := .ofEntries [(["a.py".toList], .file (some (old ++ ['\n'])))]
        directory := []
        colours := false }
    let outcome := (Line.Step.advance.command ⟨"a.py".toList, 1, true, settings⟩).run env
    let after := { env with tree := outcome.treeAfter env.tree }
    -- The second edit.
    let line (value : Text) : Text :=
      "\"x = ".toList ++ value ++ " # [CB]: a|b|| ; [CB]: d||\"".toList
    let config (value : Text) : Text :=
      "\x7b\"languages\": \x7b\"json\":\n".toList ++ line value ++
        "\n\x7d, \"commentTokens\": \x7b\n".toList ++
        "\"x = b # \\u005bCB]: a|b|| ; \\u005bCB]: d||\": \";\"\n\x7d\x7d\n".toList
    let ownEnv : Environment :=
      { tree := .ofEntries [([Config.fileName], .file (some (config "a".toList)))]
        directory := []
        colours := false }
    let ownOutcome :=
      (Line.Step.advance.command ⟨Config.fileName, 2, true, settings⟩).run ownEnv
    let ownAfter := { ownEnv with tree := ownOutcome.treeAfter ownEnv.tree }
    (outcome.status.code = 0 ∧
      after.tree.nodeAt? ["a.py".toList] = some (.file (some (new ++ ['\n']))) ∧
      read "#".toList old = some (["a".toList, "q # [CB]: z".toList], some "a".toList) ∧
      read "#".toList new = some (["z # [CB]: a".toList, "q # [CB]: z".toList], some "q".toList) ∧
      reported after "a.py".toList 1 = true) ∧
    (ownOutcome.status.code = 0 ∧
      ownAfter.tree.nodeAt? [Config.fileName] = some (.file (some (config "b".toList))) ∧
      read "#".toList (line "b".toList) = some (["a".toList, "b".toList], some "b".toList) ∧
      reported ownAfter Config.fileName 2 = true) := by
  refine ⟨⟨rfl, rfl, rfl, rfl, rfl⟩, ?_, ?_, rfl, ?_⟩
  -- The configuration is read anew for each of these, so the kernel evaluates them alone.
  · decide +kernel
  · decide +kernel
  · decide +kernel

end

end Editing

end InlineChoice
