import InlineChoice.Proofs.ConfigTokens
import InlineChoice.Proofs.Creation

/-!
# Which configuration is in force

The search for a configuration goes up from the working directory, and in each directory it
asks two questions whose order matters: a configuration ends the search even where a
repository begins, and the top of a repository ends it where there is none. `Config.Governs`
says which directory this leads to, by the directories on the way and not by the steps of
the search, and `Config.find?_eq_some_iff` says that the search finds this directory.

The nearest configuration decides alone. If it is of no use for one of three reasons
(`Config.Unusable`), then no other configuration and no default takes its place, and every
command on files ends in error and writes nothing (`Config.nearest_config_decides`).
-/

namespace InlineChoice

namespace Config

/-! ## The nearest configuration -/

/-- A directory whose configuration is in force in a directory below it, or in itself. -/
structure Governs (tree : FileTree) (directory d : Location) : Prop where
  around : d <+: directory
  has_file : tree.has (d.child fileName) = true
  /-- No directory on the way is the top of a repository or has a configuration. -/
  nearest : ∀ nearer : Location, d <+: nearer → nearer <+: directory → nearer ≠ d →
    tree.has (nearer.child fileName) = false ∧ tree.has (nearer.child repositoryName) = false

/-- The search in a directory in a directory. -/
theorem find?_child (tree : FileTree) (directory : Location) (name : Text) :
    find? tree (directory.child name) =
      findIn? tree (directory.child name) (find? tree directory) := by
  rw [find?, find?, Location.child, List.reverse_concat, findUpwards?, List.reverse_cons,
    List.reverse_reverse]

/-- A directory governs itself if it has a configuration. -/
theorem governs_self_iff {tree : FileTree} {d : Location} :
    Governs tree d d ↔ tree.has (d.child fileName) = true := by
  constructor
  · intro h
    exact h.has_file
  · intro h
    refine ⟨List.prefix_rfl, h, ?_⟩
    intro nearer hbelow habove hne
    exact absurd (hbelow.eq_of_length_le habove.length_le).symm hne

/-- A directory around another one governs it if it governs the directory between them, and
if the search goes on there. -/
theorem governs_child_iff {tree : FileTree} {directory d : Location} {name : Text} :
    Governs tree (directory.child name) d ↔
      (d = directory.child name ∧ tree.has ((directory.child name).child fileName) = true) ∨
      (tree.has ((directory.child name).child fileName) = false ∧
        tree.has ((directory.child name).child repositoryName) = false ∧
        Governs tree directory d) := by
  constructor
  · intro h
    rcases List.prefix_concat_iff.mp h.around with rfl | habove
    · exact Or.inl ⟨rfl, h.has_file⟩
    · have hne : directory.child name ≠ d := by
        rintro rfl
        have hlength := habove.length_le
        rw [Location.child, List.length_append, List.length_singleton] at hlength
        omega
      obtain ⟨hfile, hrepository⟩ := h.nearest _ h.around List.prefix_rfl hne
      refine Or.inr ⟨hfile, hrepository, habove, h.has_file, ?_⟩
      intro nearer hbelow hdirectory
      exact h.nearest nearer hbelow (hdirectory.trans (List.prefix_append _ _))
  · rintro (⟨rfl, hfile⟩ | ⟨hfile, hrepository, h⟩)
    · exact governs_self_iff.mpr hfile
    · refine ⟨h.around.trans (List.prefix_append _ _), h.has_file, ?_⟩
      intro nearer hbelow hdirectory hne
      rcases List.prefix_concat_iff.mp hdirectory with rfl | habove
      · exact ⟨hfile, hrepository⟩
      · exact h.nearest nearer hbelow habove hne

/-- **What the search finds**: the configuration file of the directory that governs. -/
theorem find?_eq_some_iff {tree : FileTree} {directory place : Location} :
    find? tree directory = some place ↔
      ∃ d, Governs tree directory d ∧ place = d.child fileName := by
  -- From the root downwards: each further name puts one more step in front of the search.
  induction directory using List.reverseRecOn with
  | nil =>
      show findIn? tree [] none = some place ↔ _
      constructor
      · intro h
        rw [findIn?] at h
        split at h
        · next hfile => exact ⟨[], governs_self_iff.mpr hfile, (Option.some.inj h).symm⟩
        · split at h <;> cases h
      · rintro ⟨d, h, rfl⟩
        obtain rfl : d = [] := List.prefix_nil.mp h.around
        rw [findIn?, if_pos h.has_file]
  | append_singleton directory name ih =>
      rw [← Location.child, find?_child, findIn?]
      simp only [governs_child_iff]
      cases hfile : tree.has ((Location.child directory name).child fileName) with
      | true =>
          simp only [if_true, Option.some.injEq, and_true, reduceCtorEq, false_and, or_false,
            exists_eq_left]
          exact eq_comm
      | false =>
          cases hrepository : tree.has ((Location.child directory name).child repositoryName) with
          | true => simp
          | false => simp [ih]

theorem find?_eq_none_iff {tree : FileTree} {directory : Location} :
    find? tree directory = none ↔ ∀ d, ¬ Governs tree directory d := by
  rw [Option.eq_none_iff_forall_ne_some]
  simp only [ne_eq, find?_eq_some_iff]
  grind

theorem length_placesAbove (names : List Text) :
    (placesAbove names).length = 2 * (names.length + 1) := by
  induction names with
  | nil => rfl
  | cons name names ih =>
      simp only [placesAbove, List.length_cons, ih]
      omega

/-- The search asks about two places in each directory and about nothing else. -/
theorem find?_congr {tree tree' : FileTree} {directory : Location}
    (h : ∀ place ∈ placesAbove directory.reverse, tree'.has place = tree.has place) :
    find? tree' directory = find? tree directory := by
  rw [find?, find?]
  generalize directory.reverse = names at h
  induction names with
  | nil =>
      simp only [placesAbove, List.forall_mem_cons] at h
      have hroot (name : Text) : Location.child [] name = [name] := rfl
      simp only [findUpwards?, findIn?, hroot, h.1, h.2.1]
  | cons name names ih =>
      simp only [placesAbove, List.forall_mem_cons] at h
      simp only [findUpwards?, findIn?, h.1, h.2.1, ih h.2.2]

/-! ## The configuration in it -/

/-- Why the file at a place holds no configuration that could be in force. -/
inductive Unusable (tree : FileTree) (place : Location) : LoadFault → Prop
  | unreadable (fault : ReadFault) (unread : tree.readAt place = .error fault) :
      Unusable tree place (.unreadable place fault)
  | malformed (text : Text) (fault : Json.Fault) (content : tree.readAt place = .ok text)
      (unparsed : read text = .error fault) : Unusable tree place (.malformed place fault)
  | refused (text : Text) (config : Config) (fault : Fault) (content : tree.readAt place = .ok text)
      (parsed : read text = .ok config) (faulty : config.fault? = some fault) :
      Unusable tree place (.refused fault)

/-- A file that cannot be loaded is of no use for one of the three reasons. -/
theorem loadAt_eq_error_iff {tree : FileTree} {place : Location} {fault : LoadFault} :
    loadAt tree place = .error fault ↔ Unusable tree place fault := by
  constructor
  · intro h
    rw [loadAt_eq] at h
    cases htext : tree.readAt place with
    | error unread =>
        rw [htext] at h
        cases h
        exact .unreadable unread htext
    | ok text =>
    cases hread : read text with
    | error unparsed =>
        simp only [htext, hread] at h
        cases h
        exact .malformed text unparsed htext hread
    | ok config =>
    cases hfault : config.fault? with
    | some faulty =>
        simp only [htext, hread, hfault] at h
        cases h
        exact .refused text config faulty htext hread hfault
    | none =>
        simp only [htext, hread, hfault] at h
        cases h
  · intro h
    rw [loadAt_eq]
    cases h with
    | unreadable unread htext => rw [htext]
    | malformed text unparsed htext hread => simp only [htext, hread]
    | refused text config faulty htext hread hfault => simp only [htext, hread, hfault]

section Governed

variable {tree : FileTree} {directory d : Location} (h : Governs tree directory d)

include h

theorem find?_of_governs : find? tree directory = some (d.child fileName) :=
  find?_eq_some_iff.mpr ⟨d, h, rfl⟩

/-- The configuration that governs is in force. -/
theorem load_eq_ok_iff_of_governs {config : Config} {found : Option Location} :
    load tree directory = .ok (config, found) ↔
      found = some (d.child fileName) ∧ loadAt tree (d.child fileName) = .ok config := by
  rw [load_eq_ok_iff, find?_of_governs h]
  constructor
  · rintro ⟨rfl, hconfig⟩
    exact ⟨rfl, hconfig⟩
  · rintro ⟨rfl, hconfig⟩
    exact ⟨rfl, hconfig⟩

/-- Where the configuration that governs cannot be used, none is in force. -/
theorem load_eq_error_iff_of_governs {fault : LoadFault} :
    load tree directory = .error fault ↔ Unusable tree (d.child fileName) fault := by
  rw [← loadAt_eq_error_iff, load, find?_of_governs h]
  cases hload : loadAt tree (d.child fileName) with
  | error fault' => simp only [hload, bind, Except.bind, Except.error.injEq]
  | ok config => simp only [hload, bind, Except.bind, pure, Except.pure, reduceCtorEq]

/-- Nothing but the file that governs is looked into. -/
theorem load_congr_of_governs {tree' : FileTree} (h' : Governs tree' directory d)
    (hsame : tree'.nodeAt? (d.child fileName) = tree.nodeAt? (d.child fileName)) :
    load tree' directory = load tree directory := by
  have hread : tree'.readAt (d.child fileName) = tree.readAt (d.child fileName) := by
    rw [FileTree.readAt, FileTree.readAt, hsame]
  rw [load, load, find?_of_governs h, find?_of_governs h']
  simp only [loadAt, hread]

end Governed

/-- The default configuration is in force where nothing governs, and there only. -/
theorem load_eq_default_iff {tree : FileTree} {directory : Location} {config : Config} :
    load tree directory = .ok (config, none) ↔
      config = default ∧ ∀ d, ¬ Governs tree directory d := by
  rw [load_eq_ok_iff, find?_eq_none_iff, and_comm]

/-- A command on files that cannot load its configuration does nothing else. -/
theorem run_of_load_error [PatternEngine] {env : Environment} {c : Command} {settings : Settings}
    {fault : LoadFault} (hasked : c.settings? = some settings)
    (hload : load env.tree env.directory = .error fault) :
    c.run env = .failed (.config fault) [] := by
  have hstart (settings : Settings) : Session.start env settings = .error (.config fault) := by
    rw [Session.start_eq, hload]
  cases c with
  | list request => simp only [Command.run, Listing.run, hstart]
  | toggle request => simp only [Command.run, Editing.toggle, Editing.withTarget, hstart]
  | set request value => simp only [Command.run, Editing.set, Editing.withTarget, hstart]
  | check request => simp only [Command.run, Checking.run, hstart]
  | init => cases hasked

/-- **The nearest configuration decides.** The search ends after at most two questions in
each directory from the working directory to the root, and it finds the configuration of the
nearest directory that has one, unless a directory nearer than that is the top of a
repository. Only where there is no such directory the default is in force. Where there is
one, its configuration is in force if it can be read, makes sense and is accepted. Otherwise
nothing is in force, whatever stands elsewhere, and no command on files does anything but
end in error. -/
theorem nearest_config_decides [PatternEngine] (tree : FileTree) (directory : Location) :
    ((placesAbove directory.reverse).length = 2 * (directory.length + 1) ∧
      ∀ tree' : FileTree, (∀ place ∈ placesAbove directory.reverse,
        tree'.has place = tree.has place) → find? tree' directory = find? tree directory) ∧
    (∀ place, find? tree directory = some place ↔
      ∃ d, Governs tree directory d ∧ place = d.child fileName) ∧
    (∀ config, load tree directory = .ok (config, none) ↔
      config = default ∧ ∀ d, ¬ Governs tree directory d) ∧
    ∀ d, Governs tree directory d →
      let place := d.child fileName
      (∀ config found, load tree directory = .ok (config, found) ↔ found = some place ∧
        (∃ text, tree.readAt place = .ok text ∧ read text = .ok config) ∧
        config.fault? = none) ∧
      (∀ fault, load tree directory = .error fault ↔ Unusable tree place fault) ∧
      (∀ tree' : FileTree, Governs tree' directory d →
        tree'.nodeAt? place = tree.nodeAt? place →
        load tree' directory = load tree directory) ∧
      ∀ fault, Unusable tree place fault → ∀ (colours : Bool) (c : Command) (settings : Settings),
        c.settings? = some settings →
        let outcome := c.run ⟨tree, directory, colours⟩
        outcome.status.code = 2 ∧ outcome.failure = some (.config fault) ∧
          outcome.treeAfter tree = tree := by
  refine ⟨⟨?_, fun tree' h => find?_congr h⟩, fun place => find?_eq_some_iff,
    fun config => load_eq_default_iff, ?_⟩
  · rw [length_placesAbove, List.length_reverse]
  · intro d hgoverns place
    refine ⟨?_, fun fault => load_eq_error_iff_of_governs hgoverns, ?_, ?_⟩
    · intro config found
      rw [load_eq_ok_iff_of_governs hgoverns, loadAt_eq_ok_iff]
    · intro tree' hgoverns' hsame
      exact load_congr_of_governs hgoverns hgoverns' hsame
    · intro fault hunusable colours c settings hasked outcome
      have houtcome : outcome = .failed (.config fault) [] :=
        run_of_load_error hasked ((load_eq_error_iff_of_governs hgoverns).mpr hunusable)
      rw [houtcome]
      exact ⟨rfl, rfl, rfl⟩

section

open scoped PatternEngine

/-- A directory stands in the place of the nearest configuration, at the top of a repository,
and a good configuration above it is of no help. -/
theorem nearest_config_decides_of_directory :
    let d : Location := ["r".toList, "w".toList]
    let directory : Location := ["r".toList, "w".toList, "s".toList]
    let tree : FileTree := .ofEntries
      [(["r".toList, fileName], .file (some default.render)),
        (["r".toList, "w".toList, fileName], .directory),
        (["r".toList, "w".toList, repositoryName], .directory),
        (["r".toList, "w".toList, "s".toList, "a.py".toList],
          .file (some "x = a # [CB]: a|b".toList))]
    let toggle : Command := .toggle ⟨"a.py".toList, 1, true, ⟨none, false⟩⟩
    Governs tree directory d ∧
    Unusable tree (d.child fileName) (.unreadable (d.child fileName) .directory) ∧
    find? tree directory = some (d.child fileName) ∧
    (toggle.run ⟨tree, directory, true⟩).status.code = 2 ∧
    (toggle.run ⟨tree, directory, true⟩).treeAfter tree = tree := by
  intro d directory tree toggle
  obtain ⟨-, hfind, -, hgoverned⟩ := nearest_config_decides tree directory
  have hfound : find? tree directory = some (d.child fileName) := by decide
  have hgoverns : Governs tree directory d := by
    obtain ⟨d', hd', hplace⟩ := (hfind _).mp hfound
    obtain rfl : d = d' := (List.append_inj' hplace rfl).1
    exact hd'
  have hunusable : Unusable tree (d.child fileName)
      (.unreadable (d.child fileName) .directory) := .unreadable .directory (by decide)
  obtain ⟨-, -, -, hfails⟩ := hgoverned d hgoverns
  obtain ⟨hcode, -, htree⟩ := hfails _ hunusable true toggle ⟨none, false⟩ rfl
  exact ⟨hgoverns, hunusable, hfound, hcode, htree⟩

end

end Config

end InlineChoice
