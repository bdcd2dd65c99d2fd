import InlineChoice.Proofs.ConfigText
import InlineChoice.Proofs.EditCommand

/-!
# Creating a configuration

The configuration that is created says what would be in force without it. So a command
that does not tell which configuration it uses cannot tell that one has been created.

* `Command.run_congr` says what a command depends on if it writes no notes: on the
  configuration in force, wherever it stands, and on what its paths read
  (`Environment.Alike`).
* `Config.alike_after_create` says that both stay as they are when a configuration is
  created where none was found, for all paths that do not lead through its place.

`Config.create_neutral` puts these together. It adds that a configuration that is there is
never written over, and that the files which the command writes are the same ones as well.
-/

namespace InlineChoice

/-- The settings of a command on files. -/
def Command.settings? : Command → Option Settings
  | list request => some request.settings
  | toggle request => some request.settings
  | set request _ => some request.settings
  | check request => some request.settings
  | init => none

/-- The environment after a command. -/
def Environment.after [PatternEngine] (env : Environment) (c : Command) : Environment :=
  { env with tree := (c.run env).treeAfter env.tree }

/-- Two environments that differ in nothing that commands on some paths ask for: the paths
read the same, and the same configuration is in force or cannot be loaded for the same
reason. It may stand in different places. -/
structure Environment.Alike (paths : List Text) (env env' : Environment) : Prop where
  colours_eq : env'.colours = env.colours
  config_eq : (Config.load env'.tree env'.directory).map Prod.fst =
    (Config.load env.tree env.directory).map Prod.fst
  read_eq : ∀ path ∈ paths,
    env'.tree.read env'.directory path = env.tree.read env.directory path

/-- Two sessions that say the same and find the same in the files of some paths. -/
structure Session.Alike (paths : List Text) (s s' : Session) : Prop where
  colours_eq : s'.colours = s.colours
  commentSyntax_eq : s'.commentSyntax = s.commentSyntax
  configNote_eq : s'.configNote = s.configNote
  fileNote_eq : s'.fileNote = s.fileNote
  load_eq : ∀ path ∈ paths, s'.load path = s.load path

/-! ## What a quiet command depends on -/

/-- A session that is not verbose has no notes. -/
theorem Session.note_eq_nil {s : Session} (hquiet : s.settings.verbose = false) (t : Text) :
    s.note t = [] := by
  rw [note, hquiet]
  rfl

section Quiet

variable {paths : List Text} {env env' : Environment}

/-- Where environments are alike, sessions that are not verbose are alike as well. -/
theorem Environment.Alike.start_cases (h : env.Alike paths env') {settings : Settings}
    (hquiet : settings.verbose = false) :
    (∃ failure, Session.start env settings = .error failure ∧
      Session.start env' settings = .error failure) ∨
    ∃ s s', Session.start env settings = .ok s ∧ Session.start env' settings = .ok s' ∧
      s.Alike paths s' := by
  have hconfig := h.config_eq
  rw [Session.start_eq, Session.start_eq]
  cases hload : Config.load env.tree env.directory with
  | error fault =>
      cases hload' : Config.load env'.tree env'.directory with
      | error fault' =>
          rw [hload, hload'] at hconfig
          obtain rfl : fault' = fault := Except.error.inj hconfig
          exact Or.inl ⟨_, rfl, rfl⟩
      | ok loaded' =>
          rw [hload, hload'] at hconfig
          cases hconfig
  | ok loaded =>
      cases hload' : Config.load env'.tree env'.directory with
      | error fault' =>
          rw [hload, hload'] at hconfig
          cases hconfig
      | ok loaded' =>
          obtain ⟨config, found⟩ := loaded
          obtain ⟨config', found'⟩ := loaded'
          rw [hload, hload'] at hconfig
          obtain rfl : config' = config := Except.ok.inj hconfig
          have hnote (e : Environment) (place : Option Location) (t : Text) :
              Session.note ⟨e, settings, config', place⟩ t = [] :=
            Session.note_eq_nil hquiet t
          refine Or.inr ⟨_, _, rfl, rfl, ⟨h.colours_eq, rfl, ?_, ?_, ?_⟩⟩
          · simp only [Session.configNote, hnote]
          · funext file
            simp only [Session.fileNote, hnote]
          · intro path hpath
            rw [Session.load_eq, Session.load_eq, h.read_eq path hpath]

theorem Listing.run_congr [PatternEngine] {request : ListRequest} (h : env.Alike request.files env')
    (hquiet : request.settings.verbose = false) : run env' request = run env request := by
  rcases h.start_cases hquiet with ⟨failure, hs, hs'⟩ | ⟨s, s', hs, hs', halike⟩
  · simp only [run, hs, hs']
  · have hload : request.files.map s'.load = request.files.map s.load :=
      List.map_congr_left halike.load_eq
    have hremark : remark s' = remark s := by
      funext result
      cases result with
      | ok file => rw [remark, remark, halike.fileNote_eq]
      | error failure => rw [remark, remark, halike.colours_eq]
    have hlisting : fileListing s' = fileListing s := by
      funext filter file
      rw [fileListing, fileListing, halike.commentSyntax_eq]
    simp only [run, hs, hs', hload, hremark, hlisting, h.colours_eq, halike.configNote_eq]

theorem Checking.run_congr [PatternEngine]
    {request : CheckRequest} (h : env.Alike request.files env')
    (hquiet : request.settings.verbose = false) : run env' request = run env request := by
  rcases h.start_cases hquiet with ⟨failure, hs, hs'⟩ | ⟨s, s', hs, hs', halike⟩
  · simp only [run, hs, hs']
  · have hload : request.files.map s'.load = request.files.map s.load :=
      List.map_congr_left halike.load_eq
    have hissues : issues s' request.files = issues s request.files := by
      rw [issues, issues]
      apply List.flatMap_congr
      intro path hpath
      rw [halike.load_eq path hpath]
      cases s.load path with
      | ok file => rw [issuesOf, issuesOf, halike.commentSyntax_eq]
      | error failure => rfl
    simp only [run, hs, hs', hload, hissues, h.colours_eq, halike.commentSyntax_eq,
      halike.configNote_eq, halike.fileNote_eq]

/-- The part that the editing commands share. -/
theorem Editing.withTarget_congr [PatternEngine]
    {request : EditRequest} (h : env.Alike [request.file] env')
    (hquiet : request.settings.verbose = false) {act act' : Session → Target → Outcome}
    (hact : ∀ s s' target, s'.commentSyntax = s.commentSyntax → act' s' target = act s target) :
    withTarget env' request act' = withTarget env request act := by
  rcases h.start_cases hquiet with ⟨failure, hs, hs'⟩ | ⟨s, s', hs, hs', halike⟩
  · simp only [withTarget, hs, hs']
  · have hload : s'.load request.file = s.load request.file :=
      halike.load_eq request.file List.mem_cons_self
    have hsame (target : Target) : act' s' target = act s target :=
      hact s s' target halike.commentSyntax_eq
    simp only [withTarget, hs, hs', hload, hsame, h.colours_eq, halike.commentSyntax_eq,
      halike.configNote_eq, halike.fileNote_eq]

theorem Editing.toggle_congr [PatternEngine]
    {request : EditRequest} (h : env.Alike [request.file] env')
    (hquiet : request.settings.verbose = false) : toggle env' request = toggle env request := by
  apply withTarget_congr h hquiet
  intro s s' target hsyn
  rw [hsyn, h.colours_eq]

theorem Editing.set_congr [PatternEngine]
    {request : EditRequest} (h : env.Alike [request.file] env')
    (hquiet : request.settings.verbose = false) (value : Text) :
    set env' request value = set env request value := by
  apply withTarget_congr h hquiet
  intro s s' target hsyn
  simp only [hsyn, h.colours_eq]

/-- **What a quiet command depends on.** A command on files that is not verbose does the same
in environments that are alike on its paths. -/
theorem Command.run_congr [PatternEngine] {c : Command} {settings : Settings}
    (hasked : c.settings? = some settings) (hquiet : settings.verbose = false)
    (h : env.Alike c.paths env') : c.run env' = c.run env := by
  cases c with
  | list request =>
      obtain rfl : request.settings = settings := Option.some.inj hasked
      exact Listing.run_congr h hquiet
  | toggle request =>
      obtain rfl : request.settings = settings := Option.some.inj hasked
      exact Editing.toggle_congr h hquiet
  | set request value =>
      obtain rfl : request.settings = settings := Option.some.inj hasked
      exact Editing.set_congr h hquiet value
  | check request =>
      obtain rfl : request.settings = settings := Option.some.inj hasked
      exact Checking.run_congr h hquiet
  | init => cases hasked

end Quiet

/-! ## Where commands write -/

/-- A command on files writes only where a file with a text stands. -/
theorem Command.nodeAt?_of_written [PatternEngine]
    {env : Environment} {c : Command} {settings : Settings}
    (hasked : c.settings? = some settings) {place : Location} {content : Text}
    (hwritten : (c.run env).written = some (place, content)) :
    ∃ text, env.tree.nodeAt? place = some (.file (some text)) := by
  have hedit (request : EditRequest) (step : Line.Step)
      (hwritten : ((step.command request).run env).effect.2 = some (place, content)) :
      ∃ text, env.tree.nodeAt? place = some (.file (some text)) := by
    rcases Editing.misses_or_reaches env request with hmisses | ⟨spot, hreaches⟩
    · rw [Editing.effect_of_misses hmisses] at hwritten
      cases hwritten
    by_cases hadmitted : step.Admitted (request.token spot.config) spot.line.content
    · rw [hreaches.effect_of_admitted hadmitted] at hwritten
      obtain ⟨-, hsome⟩ := Option.ite_none_right_eq_some.mp hwritten
      cases hsome
      exact ⟨spot.text, FileTree.nodeAt?_of_read hreaches.file_reads⟩
    · rw [hreaches.effect_of_not_admitted hadmitted] at hwritten
      cases hwritten
  cases c with
  | list request =>
      have hnone : (Listing.run env request).written = none := by
        rw [Listing.run]
        split <;> rfl
      cases hnone.symm.trans hwritten
  | toggle request => exact hedit request .advance hwritten
  | set request value => exact hedit request (.set value) hwritten
  | check request =>
      have hnone : (Checking.run env request).written = none := by
        rw [Checking.run]
        split <;> rfl
      cases hnone.symm.trans hwritten
  | init => cases hasked

/-- An outcome that writes elsewhere has the same effect before and after a write. -/
theorem Outcome.treeAfter_write {outcome : Outcome} {place : Location}
    (helsewhere : ∀ target text, outcome.written = some (target, text) → target ≠ place)
    (tree : FileTree) (content : Text) :
    outcome.treeAfter (tree.write place content) =
      (outcome.treeAfter tree).write place content := by
  rw [treeAfter, treeAfter]
  cases hwritten : outcome.written with
  | none => rfl
  | some target => exact FileTree.write_comm tree (helsewhere _ _ hwritten) _ _

/-! ## The new configuration -/

namespace Config

theorem fault?_default : default.fault? = none := by rfl

/-- A file with the text of the default configuration holds it. -/
theorem loadAt_write_default (tree : FileTree) (place : Location) :
    loadAt (tree.write place default.render) place = .ok default := by
  rw [loadAt_write_render, fault?_default]

/-- Where no configuration is found, the directory has no file of its name. -/
theorem has_eq_false_of_find? {tree : FileTree} {directory : Location}
    (hnone : find? tree directory = none) : tree.has (directory.child fileName) = false := by
  rw [Bool.eq_false_iff]
  intro hhas
  cases hnone.symm.trans (find?_of_has hhas)

/-- Where no configuration is found, the one that is created is in force and is the same as
before. -/
theorem load_write_default {tree : FileTree} {directory : Location}
    (hnone : find? tree directory = none) :
    load tree directory = .ok (default, none) ∧
    load (tree.write (directory.child fileName) default.render) directory =
      .ok (default, some (directory.child fileName)) := by
  have hhas : (tree.write (directory.child fileName) default.render).has
      (directory.child fileName) = true := by
    rw [FileTree.has, FileTree.nodeAt?_write_self]
    rfl
  exact ⟨load_eq_ok_iff.mpr ⟨hnone, rfl⟩,
    load_eq_ok_iff.mpr ⟨find?_of_has hhas, loadAt_write_default _ _⟩⟩

/-! ## Creating it -/

variable {env : Environment}

/-- A configuration that is there is not written over. -/
theorem create_of_has [PatternEngine] (h : env.tree.has (env.directory.child fileName) = true) :
    (Command.init.run env).status.code = 1 ∧
      (Command.init.run env).treeAfter env.tree = env.tree := by
  rw [Command.run, create, if_pos h]
  exact ⟨rfl, rfl⟩

theorem create_of_not_has [PatternEngine]
    (h : env.tree.has (env.directory.child fileName) = false) :
    (Command.init.run env).status.code = 0 ∧ (env.after .init).tree =
      env.tree.write (env.directory.child fileName) default.render := by
  rw [Environment.after, Command.run, create, if_neg (Bool.eq_false_iff.mp h)]
  exact ⟨rfl, rfl⟩

/-- A configuration that is created where none was found makes no difference to the paths
that do not lead through its place. -/
theorem alike_after_create [PatternEngine]
    {paths : List Text} (hnone : find? env.tree env.directory = none)
    (hpaths : ∀ path ∈ paths,
      ¬ env.tree.LeadsThrough env.directory path (env.directory.child fileName)) :
    env.Alike paths (env.after .init) := by
  obtain ⟨-, htree⟩ := create_of_not_has (has_eq_false_of_find? hnone)
  refine ⟨rfl, ?_, ?_⟩
  · obtain ⟨hbefore, hafter⟩ := load_write_default hnone
    show (load (env.after .init).tree env.directory).map Prod.fst = _
    rw [htree, hbefore, hafter]
    rfl
  · intro path hpath
    rw [htree]
    exact FileTree.read_write_of_not_leadsThrough (hpaths path hpath) _

/-- **Creating a configuration is neutral.** A configuration that is there, whatever it is,
is left as it is. Where no configuration is found, one is created, and then every command on
files that is not verbose and none of whose paths leads through the new file ends in the same
way, says the same and writes the same. -/
theorem create_neutral [PatternEngine] (env : Environment) :
    let place := env.directory.child fileName
    let created := Command.init.run env
    (env.tree.has place = true → created.status.code = 1 ∧ created.treeAfter env.tree = env.tree) ∧
    (find? env.tree env.directory = none → created.status.code = 0 ∧
      ∀ (c : Command) (settings : Settings), c.settings? = some settings →
        settings.verbose = false →
        (∀ path ∈ c.paths, ¬ env.tree.LeadsThrough env.directory path place) →
        c.run (env.after .init) = c.run env ∧
        ((env.after .init).after c).tree = (env.after c).tree.write place default.render) := by
  intro place created
  refine ⟨create_of_has, ?_⟩
  intro hnone
  have hhas : env.tree.has place = false := has_eq_false_of_find? hnone
  obtain ⟨hcode, htree⟩ := create_of_not_has hhas
  refine ⟨hcode, ?_⟩
  intro c settings hasked hquiet hpaths
  have hrun : c.run (env.after .init) = c.run env :=
    Command.run_congr hasked hquiet (alike_after_create hnone hpaths)
  have helsewhere : ∀ target text, (c.run env).written = some (target, text) → target ≠ place := by
    intro target text hwritten heq
    obtain ⟨former, hnode⟩ := Command.nodeAt?_of_written hasked hwritten
    rw [FileTree.has, ← heq, hnode] at hhas
    cases hhas
  refine ⟨hrun, ?_⟩
  show (c.run (env.after .init)).treeAfter (env.after .init).tree = _
  rw [hrun, htree]
  exact Outcome.treeAfter_write helsewhere _ _

section

open scoped PatternEngine

/-- A repository below a directory whose configuration is of no use. A line is toggled, and a
path that would lead to the new file does not, because a directory on its way is missing. -/
theorem create_neutral_in_repository :
    let entries : List (Location × Node) :=
      [(["r".toList, fileName], .file (some "no json".toList)),
        (["r".toList, "w".toList, ".git".toList], .directory),
        (["r".toList, "w".toList, "a.lua".toList], .file (some "v = a -- [CB]:a|b\n".toList))]
    let env : Environment := ⟨.ofEntries entries, ["r".toList, "w".toList], false⟩
    let above : Environment := { env with directory := ["r".toList] }
    let toggle : Command := .toggle ⟨"./a.lua".toList, 1, true, ⟨none, false⟩⟩
    let check : Command := .check ⟨["a.lua".toList, "b/../.cbtogglerc.json".toList], ⟨none, false⟩⟩
    (Command.init.run above).status.code = 1 ∧ (Command.init.run env).status.code = 0 ∧
    (toggle.run env).written = some (["r".toList, "w".toList, "a.lua".toList],
      "v = b -- [CB]:a|b\n".toList) ∧
    toggle.run (env.after .init) = toggle.run env ∧
    check.run (env.after .init) = check.run env := by
  intro entries env above toggle check
  obtain ⟨hkept, -⟩ := create_neutral above
  obtain ⟨-, hnew⟩ := create_neutral env
  obtain ⟨hcode, hneutral⟩ := hnew rfl
  have htoggle : ∀ path ∈ toggle.paths,
      ¬ env.tree.LeadsThrough env.directory path (env.directory.child fileName) := by decide
  have hcheck : ∀ path ∈ check.paths,
      ¬ env.tree.LeadsThrough env.directory path (env.directory.child fileName) := by decide
  have hrun : toggle.run (env.after .init) = toggle.run env :=
    (hneutral toggle ⟨none, false⟩ rfl rfl htoggle).1
  have hrun' : check.run (env.after .init) = check.run env :=
    (hneutral check ⟨none, false⟩ rfl rfl hcheck).1
  have hwritten : (toggle.run env).written = some (["r".toList, "w".toList, "a.lua".toList],
      "v = b -- [CB]:a|b\n".toList) := by
    unfold toggle env entries
    rfl
  exact ⟨(hkept rfl).1, hcode, hwritten, hrun, hrun'⟩

end

end Config

end InlineChoice
