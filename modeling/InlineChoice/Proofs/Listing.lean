import InlineChoice.Proofs.Checking

/-!
# What a listing shows, and what a check says of it

A listing and a check read the same files and find the same annotated lines, but then they
go different ways. The listing asks of each annotation whether its value is valid; the check
asks for its mismatch, finds the value in the line and makes an issue of it.

The annotated lines of some files are their entries (`Listing.Entry`). The records of a
listing are those of the entries that its filter accepts, in order
(`Listing.records_loaded`), and a check counts all entries (`Listing.length_entries`).
`Listing.Entry.ShownAs` says of the object that is printed for a record which fields it has.

`Listing.not_valid_iff` joins the two ways: a record is not valid if and only if the check has
an issue for its line, and then the issue points at the value of the record. Only their
statuses may differ, because a check can break off (`Listing.statuses_differ`).

Paths are texts here: a record belongs to a file if it names the same text.
-/

namespace InlineChoice

/-- The value of an annotation is not valid if it is neither empty nor a candidate. -/
theorem Choice.isValid_eq_false_iff [PatternEngine] {token line : Text} {a : Choice}
    (hparse : Choice.parseWith? token line = some a) :
    a.isValid = false ↔ Line.Mismatched token line := by
  rw [isValid, Option.isNone_eq_false_iff, Option.isSome_iff_exists]
  constructor
  · intro h
    obtain ⟨mismatch, hmismatch⟩ := h
    obtain ⟨asg, hasg, hne, hforeign, -⟩ := mismatch?_eq_some_iff.mp hmismatch
    refine ⟨a, asg.value, hparse, ?_, hne, hforeign⟩
    rw [value?, hasg]
    rfl
  · intro h
    obtain ⟨b, value, hparse', hvalue, hne, hforeign⟩ := h
    obtain rfl : a = b := Option.some.inj (hparse.symm.trans hparse')
    obtain ⟨asg, hasg, rfl⟩ := Option.map_eq_some_iff.mp hvalue
    exact ⟨_, mismatch?_eq_some_iff.mpr ⟨asg, hasg, hne, hforeign, rfl⟩⟩

namespace Listing

/-! ## Entries -/

/-- An annotated line in one of the files of a command. -/
structure Entry where
  /-- The position of the file among the arguments. -/
  argument : Nat
  path : Text
  found : AnnotatedLine

namespace Entry

/-- The record of an entry. -/
def record (e : Entry) : Record :=
  Record.ofLine e.path e.found

/-- The order of arguments, and in one argument the order of lines. -/
def Before (e e' : Entry) : Prop :=
  e.argument < e'.argument ∨ e.argument = e'.argument ∧ e.found.index < e'.found.index

/-- The file of the entry can be read, and the line stands in it with its annotation. -/
def Stands [PatternEngine] (env : Environment) (settings : Settings) (config : Config)
    (files : List Text) (e : Entry) : Prop :=
  ∃ place text, files[e.argument]? = some e.path ∧
    env.tree.read env.directory e.path = .ok (place, text) ∧
    (TerminatedLine.ofText text)[e.found.index]?.map (·.content) = some e.found.text ∧
    Choice.parseWith? (settings.tokenOf config e.path) e.found.text = some e.found.choice

end Entry

/-! ## What is printed of a record -/

/-- The value of a field of an object. -/
def field? (name : Text) : Json → Option Json
  | .object fields => fields.lookup name
  | _ => none

/-- The names of the fields of a record, in order. -/
def fieldNames : List Text :=
  ["file".toList, "line".toList, "name".toList, "value".toList, "candidates".toList,
    "kind".toList, "state".toList, "position".toList, "valid".toList]

/-- An object shows an entry. Its fields are in order, and none of them occurs twice. -/
structure Entry.ShownAs (e : Entry) (object : Json) : Prop where
  ordered : ∃ fields, object = .object fields ∧ (fields.map Prod.fst).Sublist fieldNames
  file : field? "file".toList object = some (.string e.path)
  line : field? "line".toList object = some (.number (e.found.index + 1))
  name : field? "name".toList object =
    some (.string (e.found.choice.name?.getD "(unnamed)".toList))
  value : field? "value".toList object = some (e.found.choice.value?.elim .null .string)
  candidates : field? "candidates".toList object =
    some (.array (e.found.choice.candidates.map .string))
  kind : field? "kind".toList object = some (.string e.found.choice.shape.name)
  state : field? "state".toList object =
    e.found.choice.boxState?.map fun state => .string state.name
  position : field? "position".toList object = e.found.choice.carouselIndex?.map .number
  valid : field? "valid".toList object = some (.bool e.found.choice.isValid)

/-- A field that is there only for some values is there at most once. -/
theorem sublist_optional {α : Type} (o : Option α) (name : Text) (value : α → Json) :
    ((o.map fun x => (name, value x)).toList.map Prod.fst).Sublist [name] := by
  cases o with
  | none => exact List.nil_sublist _
  | some x => exact List.Sublist.refl _

/-- The object of a record shows its entry. -/
theorem Entry.shownAs (e : Entry) : e.ShownAs e.record.json := by
  have hordered : ∃ fields, e.record.json = .object fields ∧
      (fields.map Prod.fst).Sublist fieldNames := by
    refine ⟨_, rfl, ?_⟩
    rw [List.map_append, List.map_append, List.map_append]
    exact (((List.Sublist.refl _).append (sublist_optional _ _ _)).append
      (sublist_optional _ _ _)).append (List.Sublist.refl _)
  -- Which fields are there depends on the state and the position.
  cases hstate : e.found.choice.boxState? <;> cases hposition : e.found.choice.carouselIndex? <;>
    rw [record, Record.json, Record.ofLine, hstate, hposition] at hordered ⊢ <;>
    exact
      { ordered := hordered
        file := rfl
        line := rfl
        name := rfl
        value := rfl
        candidates := rfl
        kind := rfl
        state := by rw [hstate]; rfl
        position := by rw [hposition]; rfl
        valid := rfl }

/-! ## The entries of some files -/

section General

variable [PatternEngine]

/-- The annotated lines of a file; there are none in one that cannot be read. -/
def scanned (env : Environment) (settings : Settings) (config : Config) (path : Text) :
    List AnnotatedLine :=
  match env.tree.read env.directory path with
  | .error _ => []
  | .ok (_, text) =>
    (Document.ofText (settings.languageOf config path) text).scan config.commentSyntax

/-- The entries of some files, in order. -/
def entries (env : Environment) (settings : Settings) (config : Config) (files : List Text) :
    List Entry :=
  files.zipIdx.flatMap fun (path, argument) =>
    (scanned env settings config path).map (⟨argument, path, ·⟩)

section Entries

variable {env : Environment} {settings : Settings} {config : Config} {files : List Text}

theorem mem_scanned_iff {path : Text} {found : AnnotatedLine} :
    found ∈ scanned env settings config path ↔
      ∃ place text, env.tree.read env.directory path = .ok (place, text) ∧
        (TerminatedLine.ofText text)[found.index]?.map (·.content) = some found.text ∧
        Choice.parseWith? (settings.tokenOf config path) found.text = some found.choice := by
  rw [scanned]
  cases hread : env.tree.read env.directory path with
  | error fault => simp
  | ok read =>
      simp only [Document.mem_scan_iff]
      constructor
      · intro h
        exact ⟨read.1, read.2, rfl, h⟩
      · intro h
        obtain ⟨place, text, hsame, h⟩ := h
        cases hsame
        exact h

/-- **Exactly the annotated lines are entries.** -/
theorem mem_entries_iff {e : Entry} :
    e ∈ entries env settings config files ↔ e.Stands env settings config files := by
  simp only [entries, List.mem_flatMap, List.mem_zipIdx_iff_getElem?, Prod.exists, List.mem_map,
    mem_scanned_iff, Entry.Stands]
  constructor
  · intro h
    obtain ⟨path, argument, hasked, found, ⟨place, text, hstands⟩, rfl⟩ := h
    exact ⟨place, text, hasked, hstands⟩
  · intro h
    obtain ⟨place, text, hasked, hstands⟩ := h
    exact ⟨e.path, e.argument, hasked, e.found, ⟨place, text, hstands⟩, rfl⟩

theorem pairwise_scanned (path : Text) :
    (scanned env settings config path).Pairwise (·.index < ·.index) := by
  rw [scanned]
  cases env.tree.read env.directory path with
  | error fault => exact List.Pairwise.nil
  | ok read => exact Document.pairwise_scan _ _

/-- Entries are in order, and so none of them occurs twice. -/
theorem pairwise_entries : (entries env settings config files).Pairwise Entry.Before := by
  rw [entries, List.pairwise_flatMap]
  constructor
  · intro asked hasked
    rw [List.pairwise_map]
    exact (pairwise_scanned _).imp fun hlt => Or.inr ⟨rfl, hlt⟩
  · refine (pairwise_zipIdx files).imp ?_
    intro asked asked' hlt e he e' he'
    obtain ⟨found, -, rfl⟩ := List.mem_map.mp he
    obtain ⟨found', -, rfl⟩ := List.mem_map.mp he'
    exact Or.inl hlt

/-- What does not depend on the positions of the files can be chosen and listed file by
file. -/
theorem map_filter_entries (env : Environment) (settings : Settings) (config : Config)
    (files : List Text) (p : AnnotatedLine → Bool) {α : Type} (f : Text → AnnotatedLine → α) :
    ((entries env settings config files).filter (p ·.found)).map (fun e => f e.path e.found) =
      files.flatMap fun path => ((scanned env settings config path).filter p).map (f path) := by
  have hfiles : files = files.zipIdx.map Prod.fst := (List.zipIdx_map_fst 0 _).symm
  conv_rhs => rw [hfiles, List.flatMap_map]
  simp only [entries, List.filter_flatMap, List.filter_map, List.map_flatMap, List.map_map,
    Function.comp_def]

theorem map_entries (env : Environment) (settings : Settings) (config : Config)
    (files : List Text) {α : Type} (f : Text → AnnotatedLine → α) :
    (entries env settings config files).map (fun e => f e.path e.found) =
      files.flatMap fun path => (scanned env settings config path).map (f path) := by
  simpa using map_filter_entries env settings config files (fun _ => true) f

theorem length_scanned (path : Text) : (scanned env settings config path).length =
    Checking.annotatedLines env settings config path := by
  rw [scanned, Checking.annotatedLines]
  cases env.tree.read env.directory path with
  | error fault => rfl
  | ok read => exact Checking.length_scan _ _

/-- A check counts the entries. -/
theorem length_entries : (entries env settings config files).length =
    (files.map (Checking.annotatedLines env settings config)).sum := by
  have hlength := congrArg List.length
    (map_entries env settings config files fun (_ : Text) (found : AnnotatedLine) => found)
  simpa [List.length_flatMap, length_scanned, Function.comp_def] using hlength

end Entries

/-! ## The records of a listing -/

/-- A listing that is asked for nothing in particular shows every annotation. -/
theorem filterOf_eq_all {request : ListRequest} (hquery : request.query = none) :
    filterOf request = .all := by
  rw [filterOf, hquery]
  rfl

/-- The entries whose names a filter accepts. -/
def accepted (env : Environment) (settings : Settings) (config : Config) (files : List Text)
    (filter : NameFilter) : List Entry :=
  (entries env settings config files).filter fun e => filter.accepts (displayName e.found.choice)

theorem accepted_all (env : Environment) (settings : Settings) (config : Config)
    (files : List Text) :
    accepted env settings config files .all = entries env settings config files := by
  simp [accepted, NameFilter.accepts]

/-- The records of the files that can be read are those of the accepted entries. -/
theorem records_loaded (env : Environment) (settings : Settings) (config : Config)
    (found : Option Location) (paths : List Text) (filter : NameFilter) :
    let s : Session := ⟨env, settings, config, found⟩
    records (((paths.map s.load).filterMap Except.toOption).map (fileListing s filter)) =
      (accepted env settings config paths filter).map Entry.record := by
  intro s
  have haccepted : (accepted env settings config paths filter).map Entry.record =
      paths.flatMap fun path => ((scanned env settings config path).filter fun found =>
        filter.accepts (displayName found.choice)).map (Record.ofLine path) :=
    map_filter_entries env settings config paths
      (fun found => filter.accepts (displayName found.choice)) Record.ofLine
  rw [haccepted]
  clear haccepted
  induction paths with
  | nil => rfl
  | cons path paths ih =>
      rw [List.flatMap_cons, ← ih, List.map_cons, Session.load_eq, scanned]
      cases env.tree.read env.directory path with
      | error fault => rfl
      | ok read =>
          simp only [List.filterMap_cons, Except.toOption, List.map_cons, fileListing, records,
            List.flatMap_cons]
          rfl

/-! ## The command -/

omit [PatternEngine] in
/-- No file is passed over if and only if all of them can be read. -/
theorem length_loaded_iff (env : Environment) (settings : Settings) (config : Config)
    (found : Option Location) (paths : List Text) :
    let s : Session := ⟨env, settings, config, found⟩
    ((paths.map s.load).filterMap Except.toOption).length = (paths.map s.load).length ↔
      ∀ path ∈ paths, ∃ place text, env.tree.read env.directory path = .ok (place, text) := by
  intro s
  have hload (path : Text) : (s.load path).toOption.isSome ↔
      ∃ place text, env.tree.read env.directory path = .ok (place, text) := by
    rw [Session.load_eq]
    cases env.tree.read env.directory path with
    | error fault => simp [Except.toOption]
    | ok read => exact ⟨fun _ => ⟨read.1, read.2, rfl⟩, fun _ => rfl⟩
  rw [List.length_filterMap_eq_countP, List.countP_eq_length, List.forall_mem_map]
  simp only [hload]

section Loaded

variable {env : Environment} {config : Config} {found : Option Location} (request : ListRequest)
  (hconfig : Config.load env.tree env.directory = .ok (config, found))

include hconfig

/-- A listing ends in error if and only if a file cannot be read. -/
theorem code_run_eq_two_iff : ((Command.list request).run env).status.code = 2 ↔
    ∃ (argument : Nat) (path : Text) (fault : ReadFault),
      request.files[argument]? = some path ∧
      env.tree.read env.directory path = .error fault := by
  have hloaded := length_loaded_iff env request.settings config found request.files
  simp only [Command.run, run, Session.start_eq, hconfig]
  by_cases hread : ∀ path ∈ request.files, ∃ place text,
      env.tree.read env.directory path = .ok (place, text)
  · rw [if_pos (hloaded.mpr hread)]
    constructor
    · intro hcode
      cases hcode
    · intro h
      obtain ⟨argument, path, fault, hasked, hfault⟩ := h
      obtain ⟨place, text, hok⟩ := hread path (List.mem_of_getElem? hasked)
      cases hfault.symm.trans hok
  · rw [if_neg fun h => hread (hloaded.mp h)]
    refine ⟨fun _ => ?_, fun _ => rfl⟩
    push Not at hread
    obtain ⟨path, hpath, hread⟩ := hread
    obtain ⟨argument, hasked⟩ := List.mem_iff_getElem?.mp hpath
    cases hfault : env.tree.read env.directory path with
    | ok read => exact absurd hfault (hread read.1 read.2)
    | error fault => exact ⟨argument, path, fault, hasked, hfault⟩

/-- A listing shows the records of the entries that its filter accepts, as text or in
JSON. -/
theorem output_run_accepted : ∃ listings : List FileListing,
    records listings = (accepted env request.settings config request.files
      (filterOf request)).map Entry.record ∧
    ((Command.list request).run env).output =
      if request.asJson then renderRecords listings else render env.colours listings := by
  refine ⟨_, records_loaded env request.settings config found request.files (filterOf request), ?_⟩
  simp only [Command.run, run, Session.start_eq, hconfig]

/-- Without a filter it shows the records of all entries. -/
theorem output_run (hjson : request.asJson = true) (hquery : request.query = none) :
    ((Command.list request).run env).output = Report.line (Json.pretty (.array
      ((entries env request.settings config request.files).map (·.record.json)))) := by
  obtain ⟨listings, hrecords, houtput⟩ := output_run_accepted request hconfig
  rw [houtput, if_pos hjson, renderRecords, hrecords, filterOf_eq_all hquery, accepted_all,
    List.map_map]
  rfl

section Issues

variable {e : Entry} (he : e.Stands env request.settings config request.files)

include he

/-- What describes the line of an entry is an issue of the check. -/
theorem mem_findings_of_describes {issue : Issue}
    (h : issue.Describes (request.settings.tokenOf config e.path) e.path e.found.index
      e.found.text) :
    issue ∈ Checking.findings env ⟨request.files, request.settings⟩ := by
  obtain ⟨place, text, hasked, hread, hline, -⟩ := he
  rw [Checking.mem_findings_iff _ hconfig]
  exact ⟨.line e.argument e.found.index, e.path, place, text, e.found.text, hasked, hread,
    hline, h⟩

/-- An issue for the line of an entry describes this line, even if it is due to another
argument. -/
theorem describes_of_mem_findings {place : SourcePlace} {extent : Nat} {message : Text}
    (hissue : .invalidValue place extent message ∈
      Checking.findings env ⟨request.files, request.settings⟩)
    (hfile : place.file = e.record.file) (hline : place.line = e.record.line) :
    Issue.Describes (request.settings.tokenOf config e.path) e.path e.found.index e.found.text
      (.invalidValue place extent message) := by
  obtain ⟨spot, text, -, hread, hcontent, -⟩ := he
  rw [Checking.mem_findings_iff _ hconfig] at hissue
  obtain ⟨site, hreports⟩ := hissue
  cases site with
  | file argument =>
      obtain ⟨path, fault, -, -, hissue⟩ := hreports
      cases hissue
  | line argument index =>
      obtain ⟨path, spot', text', content', -, hread', hcontent', hdescribes⟩ := hreports
      obtain ⟨hpath, hindex⟩ : place.file = path ∧ place.line = index + 1 := by
        obtain ⟨a, asg, front, -, -, -, -, -, hissue⟩ := hdescribes
        cases hissue
        exact ⟨rfl, rfl⟩
      have hpath : path = e.path := hpath.symm.trans hfile
      have hindex : index = e.found.index := by
        have hnumber : index + 1 = e.found.index + 1 := hindex.symm.trans hline
        omega
      subst hpath hindex
      cases hread.symm.trans hread'
      cases hcontent.symm.trans hcontent'
      exact hdescribes

/-- **The two ways meet.** A record is not valid if and only if a check of the same files has
an issue for its file and its line. -/
theorem not_valid_iff : e.record.valid = false ↔ ∃ place extent message,
    .invalidValue place extent message ∈ Checking.findings env ⟨request.files, request.settings⟩ ∧
    place.file = e.record.file ∧ place.line = e.record.line := by
  obtain ⟨-, -, -, -, -, hparse⟩ := id he
  have hvalid : e.record.valid = false ↔
      Line.Mismatched (request.settings.tokenOf config e.path) e.found.text :=
    Choice.isValid_eq_false_iff hparse
  rw [hvalid]
  constructor
  · intro hmismatched
    obtain ⟨issue, hdescribes⟩ := Line.exists_describes hmismatched e.path e.found.index
    have hmem := mem_findings_of_describes request hconfig he hdescribes
    obtain ⟨a, asg, front, -, -, -, -, -, rfl⟩ := hdescribes
    exact ⟨_, _, _, hmem, rfl, rfl⟩
  · intro h
    obtain ⟨place, extent, message, hissue, hfile, hline⟩ := h
    exact (describes_of_mem_findings request hconfig he hissue hfile hline).mismatched

end Issues

/-- **Listing and checking agree.** Where the configuration loads, a listing in JSON without
a filter prints one object for each annotated line of the files that can be read, in the
order of the arguments and then of the lines, and a check of the same files counts these
lines. The object says of its line that it is not valid if and only if the check has an issue
for it, and then the value in the object is what the issue points at. The check ends in error
if and only if the listing does and no issue is out of reach. -/
theorem list_agrees_with_check (hjson : request.asJson = true) (hquery : request.query = none) :
    let checked : CheckRequest := ⟨request.files, request.settings⟩
    let listing := (Command.list request).run env
    let checking := (Command.check checked).run env
    ∃ shown : List Entry,
      listing.output = Report.line (Json.pretty (.array (shown.map (·.record.json)))) ∧
      (∀ e ∈ shown, e.ShownAs e.record.json) ∧
      (∀ e, e ∈ shown ↔ e.Stands env request.settings config request.files) ∧
      shown.Pairwise Entry.Before ∧
      shown.length = (request.files.map
        (Checking.annotatedLines env request.settings config)).sum ∧
      (checking.status.code = 0 →
        checking.output = Report.nothingFound env.colours request.files.length shown.length) ∧
      (∀ e ∈ shown, field? "valid".toList e.record.json = some (.bool false) ↔
        ∃ place extent message,
          .invalidValue place extent message ∈ Checking.findings env checked ∧
          place.file = e.path ∧ place.line = e.found.index + 1) ∧
      (∀ e ∈ shown, ∀ place extent message,
        .invalidValue place extent message ∈ Checking.findings env checked →
        place.file = e.path → place.line = e.found.index + 1 →
        place.source = e.found.text ∧ field? "value".toList e.record.json =
          some (.string ((place.source.drop (place.column - 1)).take extent))) ∧
      (listing.status.code = 2 ↔ ∃ (argument : Nat) (path : Text) (fault : ReadFault),
        request.files[argument]? = some path ∧
        env.tree.read env.directory path = .error fault) ∧
      (checking.status.code = 2 ↔ listing.status.code = 2 ∧
        ∀ issue ∈ Checking.findings env checked, ¬ issue.OutOfReach) := by
  intro checked listing checking
  obtain ⟨-, htwo, -, hzero⟩ := Checking.code_run checked hconfig
  have hlisting := code_run_eq_two_iff request hconfig
  refine ⟨entries env request.settings config request.files,
    output_run request hconfig hjson hquery, fun e _ => e.shownAs,
    fun e => mem_entries_iff, pairwise_entries, length_entries, fun hcode => ?_, fun e he => ?_,
    fun e he place extent message hissue hfile hline => ?_, hlisting, ?_⟩
  · have hempty := (Checking.findings_eq_nil_iff checked hconfig).mpr (hzero.mp hcode)
    rw [length_entries, (Checking.run_eq checked hconfig).2, if_pos hempty]
  · have hvalid : field? "valid".toList e.record.json = some (.bool false) ↔
        e.record.valid = false := by
      rw [e.shownAs.valid, Option.some.injEq, Json.bool.injEq]
      rfl
    exact hvalid.trans (not_valid_iff request hconfig (mem_entries_iff.mp he))
  · have hstands := mem_entries_iff.mp he
    have hdescribes := describes_of_mem_findings request hconfig hstands hissue hfile hline
    obtain ⟨-, -, -, -, -, hparse⟩ := hstands
    obtain ⟨hsource, hvalue⟩ := hdescribes.value?_eq hparse
    refine ⟨hsource, ?_⟩
    rw [e.shownAs.value, hvalue]
    rfl
  · rw [hlisting]
    exact htwo

end Loaded

end General

section

open scoped PatternEngine

/-- A file that is given twice, with a character of three bytes in front of a value that is
not valid, and a path that runs through this file. -/
theorem list_agrees_with_check_repeated_file :
    let env : Environment :=
      { tree := .ofEntries [(["w".toList, "a".toList],
          .file (some "\r\n\u2003v=c -- [CB]:a|b\r\n".toList))]
        directory := ["w".toList]
        colours := false }
    let request : ListRequest :=
      { files := ["a".toList, "a/b".toList, "./a".toList], query := none, caseSensitive := false,
        asPattern := true, asJson := true, settings := ⟨some "sql".toList, false⟩ }
    ((Command.list request).run env).status.code = 2 ∧
    ((Command.list request).run env).output = [
      "[",
      "  \x7b",
      "    \"file\": \"a\",",
      "    \"line\": 2,",
      "    \"name\": \"v\",",
      "    \"value\": \"c\",",
      "    \"candidates\": [",
      "      \"a\",",
      "      \"b\"",
      "    ],",
      "    \"kind\": \"binary\",",
      "    \"state\": \"unchecked\",",
      "    \"valid\": false",
      "  \x7d,",
      "  \x7b",
      "    \"file\": \"./a\",",
      "    \"line\": 2,",
      "    \"name\": \"v\",",
      "    \"value\": \"c\",",
      "    \"candidates\": [",
      "      \"a\",",
      "      \"b\"",
      "    ],",
      "    \"kind\": \"binary\",",
      "    \"state\": \"unchecked\",",
      "    \"valid\": false",
      "  \x7d",
      "]"].flatMap (Report.line ·.toList) ∧
    ∃ place extent message, .invalidValue place extent message ∈
      Checking.findings env ⟨request.files, request.settings⟩ ∧
      place.file = "./a".toList ∧ place.line = 2 := by
  intro env request
  let choice : Choice := ⟨⟨"--".toList, by decide⟩, some ⟨"\u2003v=".toList, "c".toList, 5⟩,
    ["a".toList, "b".toList], "-- [CB]:a|b".toList, 7⟩
  let e : Entry := ⟨2, "./a".toList, ⟨1, "\u2003v=c -- [CB]:a|b".toList, choice⟩⟩
  have hconfig : Config.load env.tree env.directory = .ok (.default, none) := rfl
  obtain ⟨shown, -, -, hmem, -, -, -, hvalid, -, hcode, -⟩ :=
    list_agrees_with_check request hconfig rfl rfl
  have he : e ∈ shown := (hmem e).mpr ⟨_, _, rfl, rfl, rfl, rfl⟩
  exact ⟨hcode.mpr ⟨1, "a/b".toList, .throughFile, rfl, rfl⟩, by decide +kernel,
    (hvalid e he).mp rfl⟩

/-- A value out of reach in front of a path that cannot be read: the listing ends in error,
and the check breaks off. -/
theorem statuses_differ :
    let env := Checking.distantEnvironment 65533
    let files := ["a.py".toList, "b.py".toList]
    let request : ListRequest :=
      { files, query := none, caseSensitive := false, asPattern := false, asJson := true,
        settings := ⟨none, false⟩ }
    Config.load env.tree env.directory = .ok (.default, none) ∧
    ((Command.list request).run env).status.code = 2 ∧
    ((Command.check ⟨files, ⟨none, false⟩⟩).run env).status.code = 101 := by
  intro env files request
  have hconfig : Config.load env.tree env.directory = .ok (.default, none) := rfl
  refine ⟨hconfig, (code_run_eq_two_iff request hconfig).mpr
    ⟨1, "b.py".toList, .missing, rfl, rfl⟩, ?_⟩
  refine (Checking.code_run ⟨files, ⟨none, false⟩⟩ hconfig).1.mpr
    ⟨Checking.distantIssue 65533 "a.py".toList, ?_, ?_⟩
  · exact Checking.distantIssue_mem_findings 65533 0 rfl rfl
  · exact Checking.outOfReach_distantIssue (by decide) _

end

end Listing

end InlineChoice
