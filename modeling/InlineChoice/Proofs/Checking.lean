import InlineChoice.Command.Run
import InlineChoice.Proofs.DisplayWidth
import InlineChoice.Proofs.FileTree
import InlineChoice.Proofs.Report
import InlineChoice.Proofs.Scan
import InlineChoice.Proofs.WireFormat
import Mathlib.Algebra.GroupWithZero.Nat
import Mathlib.Data.List.Nodup

/-!
# What a check finds

A check can find something at two kinds of sites: a file that cannot be read, and a line
whose value is not among its candidates. `Checking.Site.Faulty` says so without the
commands, from what the paths lead to and what the lines parse to; `Checking.Reports`
says which issue describes what is wrong at a site.

The issues of a check are these descriptions, one for each faulty site and no others
(`Checking.mem_located_iff`, `Checking.nodup_sites`). A path that is given twice has its
own sites each time. No mismatch is lost on the way to its issue: an annotation with a
value has an assignment, and the place of the value is a character boundary
(`Line.exists_describes`).

`Checking.check_sound_complete` adds what follows for the status and the output. The report
of a check breaks off at an issue that is out of reach, and then the status says neither that
a file cannot be read nor that a value is not valid (`Checking.distant_value_breaks_off`).

Paths are texts here: two arguments are the same path if they are the same text.
-/

namespace InlineChoice

/-! ## Mismatches of lines -/

/-- The line has an annotation whose value is neither empty nor a candidate. -/
def Line.Mismatched [PatternEngine] (token line : Text) : Prop :=
  ∃ a value, Choice.parseWith? token line = some a ∧ a.value? = some value ∧
    value ≠ [] ∧ value ∉ a.candidates

/-- The issue describes the mismatch on the line with an index: it points at the value
and names the candidates. -/
def Issue.Describes [PatternEngine]
    (token path : Text) (index : Nat) (line : Text) (issue : Issue) : Prop :=
  ∃ a asg front, Choice.parseWith? token line = some a ∧ a.assignment = some asg ∧
    asg.value ≠ [] ∧ asg.value ∉ a.candidates ∧
    line.takeBytes? asg.valueStart = some front ∧
    issue = .invalidValue
      { file := path, line := index + 1, column := front.length + 1, source := line }
      asg.value.length (Mismatch.message ⟨asg.value, a.candidates⟩)

/-- The text in front of a value can be cut off where the value starts. -/
theorem Choice.Parts.takeBytes?_valueStart {a : Choice} {asg : Assignment}
    {line before after tail : Text} (h : a.Parts asg line before after tail) :
    line.takeBytes? asg.valueStart = some (asg.target ++ before) := by
  have hstart : asg.valueStart = Text.byteSize (asg.target ++ before) :=
    congrArg ByteRange.start h.valueRange_eq
  rw [hstart, h.line_eq, List.append_assoc _ asg.value, List.append_assoc _ (asg.value ++ after),
    List.append_assoc _ (asg.value ++ after ++ a.marker), Text.takeBytes?_byteSize_append]

/-- Every mismatch has its issue. -/
theorem Line.exists_describes [PatternEngine] {token line : Text} (h : Line.Mismatched token line)
    (path : Text) (index : Nat) : ∃ issue, Issue.Describes token path index line issue := by
  obtain ⟨a, value, hparse, hvalue, hne, hforeign⟩ := h
  obtain ⟨asg, hasg, rfl⟩ := Option.map_eq_some_iff.mp hvalue
  obtain ⟨t, before, after, tail, -, parts, -⟩ := Frame.exists_reads hparse hasg
  exact ⟨_, a, asg, _, hparse, hasg, hne, hforeign, parts.takeBytes?_valueStart, rfl⟩

/-- The line of an issue is cut at both ends of the value. -/
theorem Issue.Describes.exists_cut [PatternEngine]
    {token path line : Text} {index : Nat} {issue : Issue}
    (h : issue.Describes token path index line) {a : Choice}
    (hparse : Choice.parseWith? token line = some a) :
    ∃ asg front back, a.assignment = some asg ∧ asg.value ≠ [] ∧ asg.value ∉ a.candidates ∧
      line.takeBytes? asg.valueStart = some front ∧ line = front ++ (asg.value ++ back) ∧
      issue = .invalidValue
        { file := path, line := index + 1, column := front.length + 1, source := line }
        asg.value.length (Mismatch.message ⟨asg.value, a.candidates⟩) := by
  obtain ⟨b, asg, front, hparse', hasg, hne, hforeign, hfront, hissue⟩ := h
  obtain rfl : a = b := Option.some.inj (hparse.symm.trans hparse')
  obtain ⟨t, before, after, tail, -, parts, -⟩ := Frame.exists_reads hparse hasg
  have hbefore : front = asg.target ++ before :=
    Option.some.inj (hfront.symm.trans parts.takeBytes?_valueStart)
  refine ⟨asg, front, after ++ a.marker ++ tail, hasg, hne, hforeign, hfront, ?_, hissue⟩
  rw [hbefore, parts.line_eq]
  simp only [List.append_assoc]

/-- The column and the extent of an issue cut the value out of its source line. -/
theorem Issue.Describes.value?_eq [PatternEngine]
    {token path line : Text} {index : Nat} {place : SourcePlace}
    {extent : Nat} {message : Text}
    (h : Issue.Describes token path index line (.invalidValue place extent message)) {a : Choice}
    (hparse : Choice.parseWith? token line = some a) :
    place.source = line ∧
      a.value? = some ((place.source.drop (place.column - 1)).take extent) := by
  obtain ⟨asg, front, back, hasg, -, -, -, hline, hissue⟩ := h.exists_cut hparse
  injection hissue with hplace hextent
  have hvalue : a.value? = some asg.value := by
    rw [Choice.value?, hasg]
    rfl
  subst hplace hextent
  refine ⟨rfl, ?_⟩
  show a.value? = some ((line.drop (front.length + 1 - 1)).take asg.value.length)
  rw [hvalue, hline, Nat.add_sub_cancel, List.drop_left, List.take_left]

theorem Issue.Describes.mismatched [PatternEngine]
    {token path line : Text} {index : Nat} {issue : Issue}
    (h : issue.Describes token path index line) : Line.Mismatched token line := by
  obtain ⟨a, asg, -, hparse, hasg, hne, hforeign, -⟩ := h
  exact ⟨a, asg.value, hparse, by rw [Choice.value?, hasg]; rfl, hne, hforeign⟩

/-- An annotation has a mismatch if its value is neither empty nor a candidate. -/
theorem Choice.mismatch?_eq_some_iff {a : Choice} {mismatch : Mismatch} :
    a.mismatch? = some mismatch ↔ ∃ asg, a.assignment = some asg ∧ asg.value ≠ [] ∧
      asg.value ∉ a.candidates ∧ mismatch = ⟨asg.value, a.candidates⟩ := by
  cases hasg : a.assignment with
  | none => simp [Choice.mismatch?, Choice.value?, hasg]
  | some asg =>
      have hcandidate : a.isCandidate asg.value = true ↔ asg.value ∈ a.candidates :=
        List.contains_iff_mem
      by_cases hvalid : asg.value = [] ∨ asg.value ∈ a.candidates
      · have hnone : a.mismatch? = none := by
          simp only [Choice.mismatch?, Choice.value?, hasg, Option.map_some]
          rw [if_pos (by simpa [hcandidate] using hvalid)]
        rw [hnone]
        constructor
        · rintro ⟨⟩
        · rintro ⟨_, ⟨rfl⟩, hne, hforeign, -⟩
          exact absurd hvalid (not_or.mpr ⟨hne, hforeign⟩)
      · have hsome : a.mismatch? = some ⟨asg.value, a.candidates⟩ := by
          simp only [Choice.mismatch?, Choice.value?, hasg, Option.map_some]
          rw [if_neg (by simpa [hcandidate] using hvalid)]
        obtain ⟨hne, hforeign⟩ := not_or.mp hvalid
        rw [hsome]
        constructor
        · rintro ⟨rfl⟩
          exact ⟨asg, rfl, hne, hforeign, rfl⟩
        · rintro ⟨_, ⟨rfl⟩, -, -, rfl⟩
          rfl

/-- The issue of a line, if its value is not valid. -/
def Line.issue? [PatternEngine] (token path : Text) (index : Nat) (line : Text) : Option Issue :=
  (Choice.parseWith? token line).bind fun a => Issue.ofLine? path ⟨index, line, a⟩

/-- The issue that is found on a line describes its mismatch. -/
theorem Line.issue?_eq_some_iff [PatternEngine]
    {token path line : Text} {index : Nat} {issue : Issue} :
    Line.issue? token path index line = some issue ↔ issue.Describes token path index line := by
  have hwidth (value : Text) (hne : value ≠ []) : max value.length 1 = value.length :=
    Nat.max_eq_left (List.length_pos_of_ne_nil hne)
  simp only [Line.issue?, Issue.ofLine?, Option.bind_eq_bind, Option.bind_eq_some_iff,
    Option.pure_def, Option.some.injEq, Choice.mismatch?_eq_some_iff, Issue.Describes]
  constructor
  · rintro ⟨a, hparse, -, ⟨asg, hasg, hne, hforeign, rfl⟩, asg', hasg', front, hfront, rfl⟩
    obtain rfl : asg = asg' := Option.some.inj (hasg.symm.trans hasg')
    rw [hwidth asg.value hne]
    exact ⟨a, asg, front, hparse, hasg, hne, hforeign, hfront, rfl⟩
  · rintro ⟨a, asg, front, hparse, hasg, hne, hforeign, hfront, rfl⟩
    refine ⟨a, hparse, _, ⟨asg, hasg, hne, hforeign, rfl⟩, asg, hasg, front, hfront, ?_⟩
    rw [hwidth asg.value hne]
    rfl

/-! ## Sites -/

namespace Checking

/-- Where a check can find something. -/
inductive Site where
  /-- A file, by its position among the arguments. -/
  | file (argument : Nat)
  /-- A line of such a file, by its position in the file. -/
  | line (argument index : Nat)
  deriving DecidableEq

/-- The number of the status tells whether there are issues and errors. -/
theorem code_statusOf (issues : List Issue) :
    ((statusOf issues).code = 2 ↔ issues.any (·.severity = .error)) ∧
    ((statusOf issues).code = 1 ↔ ¬ issues.any (·.severity = .error) ∧ issues ≠ []) ∧
    ((statusOf issues).code = 0 ↔ issues = []) := by
  rw [statusOf]
  split
  · next hnil => simp [hnil, ExitStatus.code]
  · next hne =>
      split
      · next herror => simp [herror, hne, ExitStatus.code]
      · next herror => simp [herror, hne, ExitStatus.code]

/-- A check that has reported what it found does not break off. -/
theorem code_statusOf_ne (issues : List Issue) : (statusOf issues).code ≠ 101 := by
  rw [statusOf]
  split
  · decide
  · split <;> decide

section General

variable [PatternEngine]

/-- Something is wrong at a site: a file cannot be read, or a line has a mismatch. -/
def Site.Faulty (env : Environment) (request : CheckRequest) (config : Config) : Site → Prop
  | file argument => ∃ path fault, request.files[argument]? = some path ∧
      env.tree.read env.directory path = .error fault
  | line argument index => ∃ path place text content, request.files[argument]? = some path ∧
      env.tree.read env.directory path = .ok (place, text) ∧
      (TerminatedLine.ofText text)[index]?.map (·.content) = some content ∧
      Line.Mismatched (request.settings.tokenOf config path) content

/-- The issue says what is wrong at a site. -/
def Reports (env : Environment) (request : CheckRequest) (config : Config) (issue : Issue) :
    Site → Prop
  | .file argument => ∃ path fault, request.files[argument]? = some path ∧
      env.tree.read env.directory path = .error fault ∧
      issue = .readError path (Failure.message (.unreadable path fault))
  | .line argument index => ∃ path place text content,
      request.files[argument]? = some path ∧
      env.tree.read env.directory path = .ok (place, text) ∧
      (TerminatedLine.ofText text)[index]?.map (·.content) = some content ∧
      issue.Describes (request.settings.tokenOf config path) path index content

variable {env : Environment} {request : CheckRequest} {config : Config}

/-- Something is wrong at a site if and only if there is an issue that says so. -/
theorem exists_reports_iff {site : Site} :
    (∃ issue, Reports env request config issue site) ↔ site.Faulty env request config := by
  cases site with
  | file argument =>
      constructor
      · rintro ⟨issue, path, fault, hasked, hread, -⟩
        exact ⟨path, fault, hasked, hread⟩
      · rintro ⟨path, fault, hasked, hread⟩
        exact ⟨_, path, fault, hasked, hread, rfl⟩
  | line argument index =>
      constructor
      · rintro ⟨issue, path, place, text, content, hasked, hread, hline, hdescribes⟩
        exact ⟨path, place, text, content, hasked, hread, hline, hdescribes.mismatched⟩
      · rintro ⟨path, place, text, content, hasked, hread, hline, hmismatched⟩
        obtain ⟨issue, hdescribes⟩ := Line.exists_describes hmismatched path index
        exact ⟨issue, path, place, text, content, hasked, hread, hline, hdescribes⟩

/-! ## The issues with their sites -/

/-- The issues of the file at a position among the arguments, each with its site. -/
def locatedIn (env : Environment) (settings : Settings) (config : Config) (path : Text)
    (argument : Nat) : List (Site × Issue) :=
  match env.tree.read env.directory path with
  | .error fault => [(.file argument, .readError path (Failure.message (.unreadable path fault)))]
  | .ok (_, text) => (TerminatedLine.ofText text).zipIdx.filterMap fun (line, index) =>
      (Line.issue? (settings.tokenOf config path) path index line.content).map
        (.line argument index, ·)

/-- The issues of a check, each with its site. -/
def located (env : Environment) (request : CheckRequest) (config : Config) :
    List (Site × Issue) :=
  request.files.zipIdx.flatMap fun (path, argument) =>
    locatedIn env request.settings config path argument

/-- **One issue for each faulty site.** An issue is found at a site if and only if it
says what is wrong there. -/
theorem mem_located_iff {site : Site} {issue : Issue} :
    (site, issue) ∈ located env request config ↔ Reports env request config issue site := by
  simp only [located, List.mem_flatMap, List.mem_zipIdx_iff_getElem?, Prod.exists, locatedIn]
  constructor
  · rintro ⟨path, argument, hasked, hmem⟩
    cases hread : env.tree.read env.directory path with
    | error fault =>
        rw [hread] at hmem
        obtain ⟨rfl, rfl⟩ : site = .file argument ∧ issue = _ := by simpa using hmem
        exact ⟨path, fault, hasked, hread, rfl⟩
    | ok found =>
        obtain ⟨place, text⟩ := found
        rw [hread] at hmem
        obtain ⟨⟨line, index⟩, hline, hissue⟩ := List.mem_filterMap.mp hmem
        obtain ⟨found, hfound, heq⟩ := Option.map_eq_some_iff.mp hissue
        cases heq
        refine ⟨path, place, text, line.content, hasked, hread, ?_,
          Line.issue?_eq_some_iff.mp hfound⟩
        rw [List.mem_zipIdx_iff_getElem?.mp hline]
        rfl
  · intro h
    cases site with
    | file argument =>
        obtain ⟨path, fault, hasked, hread, rfl⟩ := h
        refine ⟨path, argument, hasked, ?_⟩
        rw [hread]
        exact List.mem_singleton.mpr rfl
    | line argument index =>
        obtain ⟨path, place, text, content, hasked, hread, hcontent, hdescribes⟩ := h
        obtain ⟨line, hline, rfl⟩ := Option.map_eq_some_iff.mp hcontent
        refine ⟨path, argument, hasked, ?_⟩
        rw [hread]
        refine List.mem_filterMap.mpr
          ⟨(line, index), List.mem_zipIdx_iff_getElem?.mpr hline, ?_⟩
        rw [Line.issue?_eq_some_iff.mpr hdescribes, Option.map_some]

/-- The issues of a check; without a configuration it looks at nothing. -/
def findings (env : Environment) (request : CheckRequest) : List Issue :=
  match Session.start env request.settings with
  | .error _ => []
  | .ok s => issues s request.files

/-- The number of annotated lines in a file; there are none in one that cannot be read. -/
def annotatedLines (env : Environment) (settings : Settings) (config : Config) (path : Text) :
    Nat :=
  match env.tree.read env.directory path with
  | .error _ => 0
  | .ok (_, text) => (TerminatedLine.ofText text).countP fun line =>
      (Choice.parseWith? (settings.tokenOf config path) line.content).isSome

/-- The issues of one file are those of its sites. -/
theorem issuesOf_load (env : Environment) (settings : Settings) (config : Config)
    (found : Option Location) (path : Text) (argument : Nat) :
    let s : Session := ⟨env, settings, config, found⟩
    issuesOf s path (s.load path) = (locatedIn env settings config path argument).map Prod.snd := by
  intro s
  rw [Session.load_eq, locatedIn]
  cases env.tree.read env.directory path with
  | error fault => rfl
  | ok read =>
      simp only [issuesOf, Document.scan_eq, List.filterMap_filterMap, List.map_filterMap,
        Option.map_map, Option.bind_map, Function.comp_def, Option.map_id_fun']
      rfl

/-- The number of annotations that are scanned in a file. -/
theorem length_scan (doc : Document) (syn : CommentSyntax) :
    (doc.scan syn).length = doc.lines.countP fun line =>
      (Choice.parseWith? (syn.tokenFor doc.language) line.content).isSome := by
  have hlines : doc.lines = doc.lines.zipIdx.map Prod.fst := (List.zipIdx_map_fst 0 _).symm
  rw [Document.scan_eq, List.length_filterMap_eq_countP]
  conv_rhs => rw [hlines, List.countP_map]
  simp only [Option.isSome_map, Function.comp_def]

/-- Files that can all be read are all counted, and so are the annotations in them. -/
theorem length_loaded (config : Config) (found : Option Location) (settings : Settings)
    {paths : List Text} (hread : ∀ path ∈ paths, ∃ place text,
      env.tree.read env.directory path = .ok (place, text)) :
    let s : Session := ⟨env, settings, config, found⟩
    let files := (paths.map s.load).filterMap Except.toOption
    files.length = paths.length ∧
    (files.flatMap fun file => file.document.scan s.commentSyntax).length =
      (paths.map (annotatedLines env settings config)).sum := by
  intro s files
  induction paths with
  | nil => exact ⟨rfl, rfl⟩
  | cons path paths ih =>
      obtain ⟨place, text, hpath⟩ := hread path List.mem_cons_self
      obtain ⟨hfiles, hlines⟩ := ih fun p hp => hread p (List.mem_cons_of_mem path hp)
      have hload : s.load path = .ok
          { path, place, document := .ofText (settings.languageOf config path) text } := by
        rw [Session.load_eq, hpath]
      have hscan : (Document.scan (.ofText (settings.languageOf config path) text)
          s.commentSyntax).length = annotatedLines env settings config path := by
        rw [annotatedLines, hpath, length_scan]
        rfl
      simp only [files, List.map_cons, List.filterMap_cons, hload, Except.toOption,
        List.length_cons, List.flatMap_cons, List.length_append, List.sum_cons, hscan]
      exact ⟨congrArg (· + 1) hfiles, congrArg (_ + ·) hlines⟩

section Loaded

variable (request) {found : Option Location}
  (hconfig : Config.load env.tree env.directory = .ok (config, found))

include hconfig

/-- The issues of a check are those of its sites. -/
theorem findings_eq : findings env request = (located env request config).map Prod.snd := by
  have hfiles : request.files = request.files.zipIdx.map Prod.fst :=
    (List.zipIdx_map_fst 0 _).symm
  simp only [findings, Session.start_eq, hconfig, issues, located, List.map_flatMap]
  conv_lhs => rw [hfiles, List.flatMap_map]
  congr 1
  funext ⟨path, argument⟩
  exact issuesOf_load env request.settings config found path argument

/-- An issue is found if and only if it says what is wrong at some site. -/
theorem mem_findings_iff {issue : Issue} :
    issue ∈ findings env request ↔ ∃ site, Reports env request config issue site := by
  simp only [findings_eq request hconfig, List.mem_map, Prod.exists, mem_located_iff,
    exists_eq_right]

/-- Nothing is found where nothing is wrong. -/
theorem findings_eq_nil_iff :
    findings env request = [] ↔ ∀ site : Site, ¬ site.Faulty env request config := by
  simp only [List.eq_nil_iff_forall_not_mem, mem_findings_iff request hconfig, ← exists_reports_iff,
    not_exists]
  exact forall_comm

/-- An error is found where a file cannot be read. -/
theorem any_error_iff :
    (findings env request).any (·.severity = .error) ↔
      ∃ argument, (Site.file argument).Faulty env request config := by
  simp only [List.any_eq_true, decide_eq_true_eq, mem_findings_iff request hconfig]
  constructor
  · rintro ⟨issue, ⟨site, hreports⟩, herror⟩
    cases site with
    | file argument => exact ⟨argument, exists_reports_iff.mp ⟨issue, hreports⟩⟩
    | line argument index =>
        obtain ⟨path, place, text, content, -, -, -, a, asg, front, -, -, -, -, -, rfl⟩ := hreports
        cases herror
  · rintro ⟨argument, path, fault, hasked, hread⟩
    exact ⟨_, ⟨.file argument, path, fault, hasked, hread, rfl⟩, rfl⟩

/-- Where no file is faulty, all files can be read. -/
theorem exists_read_of_findings_eq_nil (h : findings env request = []) :
    ∀ path ∈ request.files, ∃ place text,
      env.tree.read env.directory path = .ok (place, text) := by
  intro path hpath
  obtain ⟨argument, hasked⟩ := List.mem_iff_getElem?.mp hpath
  cases hread : env.tree.read env.directory path with
  | ok found => exact ⟨found.1, found.2, rfl⟩
  | error fault =>
      exact absurd ⟨path, fault, hasked, hread⟩
        ((findings_eq_nil_iff request hconfig).mp h (.file argument))

/-- What a check returns, as a function of what it finds. -/
theorem run_eq :
    let report := Report.print env.colours (findings env request)
    ((Command.check request).run env).status =
      (if report.isComplete then statusOf (findings env request) else .aborted) ∧
    ((Command.check request).run env).output =
      if findings env request = [] then
        Report.nothingFound env.colours request.files.length
          (request.files.map (annotatedLines env request.settings config)).sum
      else report.text := by
  intro report
  have hfindings : findings env request =
      issues ⟨env, request.settings, config, found⟩ request.files := by
    simp only [findings, Session.start_eq, hconfig]
  simp only [Command.run, run, Session.start_eq, hconfig, ← hfindings, true_and, report]
  by_cases hnil : findings env request = []
  · have hread := exists_read_of_findings_eq_nil request hconfig hnil
    obtain ⟨hfiles, hlines⟩ := length_loaded config found request.settings hread
    rw [if_pos hnil, if_pos hnil, hfiles, hlines, Report.success_eq]
  · rw [if_neg hnil, if_neg hnil]

/-- A check with all issues in reach writes down what it found. -/
theorem run_of_inReach (hreach : ∀ issue ∈ findings env request, ¬ issue.OutOfReach) :
    ((Command.check request).run env).status = statusOf (findings env request) ∧
    ((Command.check request).run env).output =
      if findings env request = [] then
        Report.nothingFound env.colours request.files.length
          (request.files.map (annotatedLines env request.settings config)).sum
      else Report.render env.colours (findings env request) := by
  obtain ⟨hstatus, houtput⟩ := run_eq request hconfig
  rw [Report.print_eq_render env.colours hreach] at hstatus houtput
  exact ⟨hstatus, houtput⟩

/-- A check with an issue out of reach breaks off in its report. -/
theorem run_of_outOfReach (hfar : ∃ issue ∈ findings env request, issue.OutOfReach) :
    ((Command.check request).run env).status = .aborted ∧
    ∃ rest, rest ≠ [] ∧ Report.render env.colours (findings env request) =
      ((Command.check request).run env).output ++ rest := by
  obtain ⟨hstatus, houtput⟩ := run_eq request hconfig
  obtain ⟨hbroken, hrest⟩ := Report.exists_rest_of_outOfReach env.colours hfar
  obtain ⟨issue, hissue, -⟩ := hfar
  rw [hbroken, if_neg Bool.false_ne_true] at hstatus
  rw [if_neg (List.ne_nil_of_mem hissue)] at houtput
  rw [houtput]
  exact ⟨hstatus, hrest⟩

/-- The number of the status, for each of the ways in which a check ends. -/
theorem code_run :
    let code := ((Command.check request).run env).status.code
    (code = 101 ↔ ∃ issue ∈ findings env request, issue.OutOfReach) ∧
    (code = 2 ↔ (∃ argument, (Site.file argument).Faulty env request config) ∧
      ∀ issue ∈ findings env request, ¬ issue.OutOfReach) ∧
    (code = 1 ↔ (¬ ∃ argument, (Site.file argument).Faulty env request config) ∧
      (∃ argument index, (Site.line argument index).Faulty env request config) ∧
      ∀ issue ∈ findings env request, ¬ issue.OutOfReach) ∧
    (code = 0 ↔ ∀ site : Site, ¬ site.Faulty env request config) := by
  intro code
  have herror := any_error_iff request hconfig
  have hnil := findings_eq_nil_iff request hconfig
  obtain ⟨htwo, hone, hzero⟩ := code_statusOf (findings env request)
  by_cases hfar : ∃ issue ∈ findings env request, issue.OutOfReach
  · have hcode : code = 101 := congrArg ExitStatus.code (run_of_outOfReach request hconfig hfar).1
    have hnot : ¬ ∀ issue ∈ findings env request, ¬ issue.OutOfReach := by
      intro hreach
      obtain ⟨issue, hissue, hissueFar⟩ := hfar
      exact hreach issue hissue hissueFar
    have hfaulty : ¬ ∀ site : Site, ¬ site.Faulty env request config := by
      obtain ⟨issue, hissue, -⟩ := hfar
      rw [← hnil]
      exact List.ne_nil_of_mem hissue
    simp [hcode, hfar, hnot, hfaulty]
  · have hreach : ∀ issue ∈ findings env request, ¬ issue.OutOfReach :=
      fun issue hissue hissueFar => hfar ⟨issue, hissue, hissueFar⟩
    have hcode : code = (statusOf (findings env request)).code :=
      congrArg ExitStatus.code (run_of_inReach request hconfig hreach).1
    refine ⟨?_, ?_, ?_, ?_⟩
    · rw [hcode]
      exact iff_of_false (code_statusOf_ne _) hfar
    · rw [hcode, htwo, herror, and_iff_left hreach]
    · rw [hcode, hone, herror, and_iff_left hreach, ne_eq, hnil]
      refine and_congr_right fun hfiles => ?_
      constructor
      · intro hsome
        obtain ⟨site, hfaulty⟩ := not_forall_not.mp hsome
        cases site with
        | file argument => exact absurd ⟨argument, hfaulty⟩ hfiles
        | line argument index => exact ⟨argument, index, hfaulty⟩
      · rintro ⟨argument, index, hfaulty⟩ hnone
        exact hnone _ hfaulty
    · rw [hcode, hzero, hnil]

end Loaded

end General

section

open scoped PatternEngine

end

/-! ## A value out of reach -/

/-- An assignment with a name of some length, whose value is not among its candidates. -/
def distant (n : Nat) : Written :=
  ⟨List.replicate n 'x', ['c'], [['a'], ['b']]⟩

/-- The line of this assignment. -/
def distantLine (n : Nat) : Text :=
  (distant n).line ['#']

/-- What stands in front of its value. -/
def distantFront (n : Nat) : Text :=
  List.replicate n 'x' ++ [' ', '=', ' ']

/-- The issue of its line. -/
def distantIssue (n : Nat) (path : Text) : Issue :=
  .invalidValue ⟨path, 1, (distantFront n).length + 1, distantLine n⟩ 1
    (Mismatch.message ⟨['c'], [['a'], ['b']]⟩)

theorem readable_distant (n : Nat) : (distant n).Readable where
  name_no_sign h := absurd (List.eq_of_mem_replicate h) (by decide)
  name_no_tag h := absurd (List.eq_of_mem_replicate (h.subset List.mem_cons_self)) (by decide)
  value_trim := rfl
  value_no_tag := (by decide : ¬ Marker.tag <:+: ['c'])
  candidates_ne_nil := List.cons_ne_nil _ _
  isCandidate c hc := by
    rcases List.mem_pair.mp hc with rfl | rfl <;> exact ⟨by decide, rfl, by decide, by decide⟩

theorem distantLine_eq (n : Nat) :
    distantLine n = distantFront n ++ ('c' :: " # [CB]: a|b".toList) := by
  rw [distantLine, Written.line, distantFront, distant]
  simp only [List.append_assoc]
  rfl

theorem parse?_distantLine (n : Nat) : ∃ a asg,
    Choice.parse? .hash (distantLine n) = some a ∧ a.assignment = some asg ∧
      a.candidates = [['a'], ['b']] ∧ asg.value = ['c'] ∧
      asg.valueStart = (distantFront n).byteSize := by
  have hplain : Marker.PlainToken CommentToken.hash.text := by decide
  have hassignment : Assignment.ofHead? ((distant n).target ++ [' ', 'c', ' ']) = some
      ⟨(distant n).target, Text.trim [' ', 'c', ' '],
        (distant n).target.byteSize + Text.byteSize [' ']⟩ :=
    Assignment.ofHead?_target_append (readable_distant n).isTarget (by decide)
  refine ⟨_, _, Choice.parse?_eq_some_iff.mpr ⟨_, _, (readable_distant n).find?_line hplain,
    (by decide : CandidateList.candidates "a|b".toList ≠ []), rfl⟩, hassignment, ?_, ?_, ?_⟩
  · exact (by decide : CandidateList.candidates "a|b".toList = [['a'], ['b']])
  · exact (by decide : Text.trim [' ', 'c', ' '] = ['c'])
  · show (distant n).target.byteSize + Text.byteSize [' '] = _
    rw [← Text.byteSize_append, distantFront, Written.target, distant, List.append_assoc]
    rfl

theorem describes_distantIssue [PatternEngine] (compiles : Marker.compiles ['#']) (n : Nat)
    (path : Text) : (distantIssue n path).Describes ['#'] path 0 (distantLine n) := by
  obtain ⟨a, asg, hparse, hasg, hcandidates, hvalue, hstart⟩ := parse?_distantLine n
  have hread : Choice.parseWith? ['#'] (distantLine n) = some a :=
    Choice.parseWith?_text_eq_some_iff.mpr ⟨compiles, hparse⟩
  refine ⟨a, asg, distantFront n, hread, hasg, ?_, ?_, ?_, ?_⟩
  · rw [hvalue]
    decide
  · rw [hvalue, hcandidates]
    decide
  · rw [hstart, distantLine_eq, Text.takeBytes?_byteSize_append]
  · rw [hvalue, hcandidates]
    rfl

/-- Three columns stand between the name and the value. -/
theorem outOfReach_distantIssue {n : Nat} (hfar : 65532 < n) (path : Text) :
    (distantIssue n path).OutOfReach := by
  have hnarrow : (distantFront n).Narrow := by
    refine Text.narrow_append.mpr ⟨fun c hc => ?_, Text.narrow_spaced (by decide)⟩
    rw [List.eq_of_mem_replicate hc]
    decide
  have hcut : (distantLine n).take ((distantFront n).length + 1 - 1) = distantFront n := by
    rw [distantLine_eq, Nat.add_sub_cancel, List.take_left]
  refine ⟨_, rfl, ?_⟩
  show 65535 < Unicode.displayWidth ((distantLine n).take ((distantFront n).length + 1 - 1))
  rw [hcut, Unicode.displayWidth_of_narrow hnarrow, distantFront, List.length_append,
    List.length_replicate]
  show 65535 < n + 3
  omega

/-- The assignment is the only line of a text. -/
theorem ofText_distantLine (n : Nat) :
    TerminatedLine.ofText (distantLine n) = [⟨distantLine n, .endOfText⟩] := by
  have hfront : '\n' ∉ distantFront n :=
    List.not_mem_append (fun hmem => absurd (List.eq_of_mem_replicate hmem) (by decide))
      (by decide)
  have hproper : TerminatedLine.IsProper ⟨distantLine n, .endOfText⟩ := by
    constructor
    · show '\n' ∉ distantLine n
      rw [distantLine_eq]
      exact List.not_mem_append hfront (by decide)
    · show distantLine n ≠ []
      rw [distantLine_eq]
      exact List.append_ne_nil_of_right_ne_nil _ (List.cons_ne_nil _ _)
  have hcut : TerminatedLine.ofText (distantLine n ++ [] ++ []) = [⟨distantLine n, .endOfText⟩] :=
    TerminatedLine.ofText_text_append hproper fun _ => rfl
  rwa [List.append_nil, List.append_nil] at hcut

/-- The assignment in a file of its own. -/
def distantEnvironment (n : Nat) : Environment where
  tree := .ofEntries [(["w".toList, "a.py".toList], .file (some (distantLine n)))]
  directory := ["w".toList]
  colours := false

section

open scoped PatternEngine

/-- Every check of this file finds the issue of the assignment. -/
theorem distantIssue_mem_findings (n : Nat) {request : CheckRequest} (argument : Nat)
    (hasked : request.files[argument]? = some "a.py".toList)
    (hsettings : request.settings = ⟨none, false⟩) :
    distantIssue n "a.py".toList ∈ findings (distantEnvironment n) request := by
  have hconfig : Config.load (distantEnvironment n).tree (distantEnvironment n).directory =
      .ok (.default, none) := rfl
  refine (mem_findings_iff request hconfig).mpr
    ⟨.line argument 0, "a.py".toList, _, distantLine n, distantLine n, hasked, rfl, ?_, ?_⟩
  · rw [ofText_distantLine]
    rfl
  · rw [hsettings]
    exact describes_distantIssue rfl n "a.py".toList

end

end Checking

end InlineChoice
