import InlineChoice.Command.Session
import Mathlib.Data.List.Basic
import Mathlib.Data.List.Infix

/-!
# Reading and writing files

A command that edits writes one file at most, and only where it has read one. Such a write
replaces the text of that file and does nothing else that a later command can see: every
path leads to the same place (`FileTree.locate_write`), every other file reads as before, and
the same configuration file is found (`Config.find?_write`). The configuration in force
is another one only if the write went into its file (`Config.load_write`).

A new file does more, for it also bars the ways that led through its place. No other path
is affected (`FileTree.read_write_of_not_leadsThrough`).

The second part states what a session reads as functions of the file tree, so that the
theories of the commands need not open a session.
-/

namespace InlineChoice

/-- The location of a file and its text, if the path leads to a file with a text. -/
def FileTree.read (tree : FileTree) (directory : Location) (path : Text) :
    Except ReadFault (Location × Text) := do
  let place ← tree.locate directory path
  return (place, ← tree.readAt place)

namespace FileTree

/-- A path is read by following it and reading the file at its end. -/
theorem read_eq_ok_iff {tree : FileTree} {directory : Location} {path : Text}
    {place : Location} {text : Text} :
    tree.read directory path = .ok (place, text) ↔
      tree.locate directory path = .ok place ∧ tree.readAt place = .ok text := by
  cases hplace : tree.locate directory path with
  | error fault => simp [read, hplace, bind, Except.bind]
  | ok found =>
      cases htext : tree.readAt found with
      | error fault =>
          simp only [read, hplace, htext, bind, Except.bind, reduceCtorEq, false_iff, not_and]
          rintro ⟨rfl⟩
          simp [htext]
      | ok content =>
          simp only [read, hplace, htext, bind, Except.bind, pure, Except.pure]
          constructor
          · rintro ⟨rfl⟩
            exact ⟨rfl, htext⟩
          · rintro ⟨⟨rfl⟩, hcontent⟩
            rw [htext] at hcontent
            cases hcontent
            rfl

theorem readAt_eq_ok_iff {tree : FileTree} {place : Location} {text : Text} :
    tree.readAt place = .ok text ↔ tree.nodeAt? place = some (.file (some text)) := by
  rw [readAt]
  split <;> simp_all

/-- What is read stands in the tree. -/
theorem nodeAt?_of_read {tree : FileTree} {directory : Location} {path : Text}
    {place : Location} {text : Text} (h : tree.read directory path = .ok (place, text)) :
    tree.nodeAt? place = some (.file (some text)) :=
  readAt_eq_ok_iff.mp (read_eq_ok_iff.mp h).2

/-! ## After a write -/

section Write

variable {tree : FileTree} {place : Location} {old : Option Text}
  (h : tree.nodeAt? place = some (.file old)) (content : Text)

theorem nodeAt?_write_self (tree : FileTree) (place : Location) (content : Text) :
    (tree.write place content).nodeAt? place = some (.file (some content)) :=
  if_pos rfl

theorem nodeAt?_write_of_ne {other : Location} (hne : other ≠ place) :
    (tree.write place content).nodeAt? other = tree.nodeAt? other :=
  if_neg hne

/-- Writes into different places can be exchanged. -/
theorem write_comm (tree : FileTree) {place place' : Location} (hne : place' ≠ place)
    (content content' : Text) :
    (tree.write place content).write place' content' =
      (tree.write place' content').write place content := by
  simp only [write]
  congr 1
  funext other
  by_cases hother : other = place
  · rw [if_neg (hother ▸ hne.symm), if_pos hother, if_pos hother]
  · rw [if_neg hother, if_neg hother]

include h

/-- Nothing appears and nothing vanishes. -/
theorem has_write (other : Location) : (tree.write place content).has other = tree.has other := by
  by_cases hother : other = place
  · rw [hother, has, has, nodeAt?_write_self, h]
    rfl
  · rw [has, has, nodeAt?_write_of_ne content hother]

/-- A walk only asks where directories and files stand, not what the files hold. -/
theorem walk_write (start : Location) (names : List Text) :
    (tree.write place content).walk start names = tree.walk start names := by
  induction names generalizing start with
  | nil => rfl
  | cons name names ih =>
      simp only [walk, ih]
      by_cases hstart : start = place
      · rw [hstart, nodeAt?_write_self, h]
      · rw [nodeAt?_write_of_ne content hstart]

theorem locate_write (directory : Location) (path : Text) :
    (tree.write place content).locate directory path = tree.locate directory path := by
  simp only [locate, walk_write h]

end Write

/-- A file that has been read and then written reads as what was written. -/
theorem read_write_self {tree : FileTree} {directory : Location} {path : Text}
    {place : Location} {text : Text} (h : tree.read directory path = .ok (place, text))
    (content : Text) : (tree.write place content).read directory path = .ok (place, content) := by
  have hnode := nodeAt?_of_read h
  refine read_eq_ok_iff.mpr ⟨?_, readAt_eq_ok_iff.mpr (nodeAt?_write_self tree place content)⟩
  rw [locate_write hnode]
  exact (read_eq_ok_iff.mp h).1

/-! ## A new file -/

/-- A path leads through a place if a beginning of it leads there. -/
def LeadsThrough (tree : FileTree) (directory : Location) (path : Text) (place : Location) :
    Prop :=
  ∃ names, names <+: Text.pieces '/' path ∧ tree.walk (startOf directory path) names = .ok place

instance (tree : FileTree) (directory : Location) (path : Text) (place : Location) :
    Decidable (tree.LeadsThrough directory path place) :=
  decidable_of_iff (∃ names ∈ (Text.pieces '/' path).inits,
    tree.walk (startOf directory path) names = .ok place) <| by
      simp only [LeadsThrough, List.mem_inits]

section New

variable {tree : FileTree} {place : Location}

/-- A first name leads somewhere or fails, as the entry at the start says. -/
theorem walk_cons_cases {tree tree' : FileTree} {start : Location}
    (h : tree'.nodeAt? start = tree.nodeAt? start) (name : Text) :
    (∃ fault, ∀ names, tree.walk start (name :: names) = .error fault ∧
      tree'.walk start (name :: names) = .error fault) ∨
    ∃ next, ∀ names, tree.walk start (name :: names) = tree.walk next names ∧
      tree'.walk start (name :: names) = tree'.walk next names := by
  simp only [walk, h]
  cases tree.nodeAt? start with
  | none => exact Or.inl ⟨.missing, fun _ => ⟨rfl, rfl⟩⟩
  | some node =>
  cases node with
  | file text => exact Or.inl ⟨.throughFile, fun _ => ⟨rfl, rfl⟩⟩
  | directory | refused =>
      by_cases hhere : (name = [] || name = ['.']) = true
      · simp only [if_pos hhere]
        exact Or.inr ⟨start, fun _ => ⟨rfl, rfl⟩⟩
      by_cases hback : name = ['.', '.']
      · simp only [if_neg hhere, if_pos hback]
        exact Or.inr ⟨start.parent, fun _ => ⟨rfl, rfl⟩⟩
      by_cases hlong : name.byteSize > longestName
      · simp only [if_neg hhere, if_neg hback, if_pos hlong]
        exact Or.inl ⟨.tooLong, fun _ => ⟨rfl, rfl⟩⟩
      · simp only [if_neg hhere, if_neg hback, if_neg hlong]
        exact Or.inr ⟨start.child name, fun _ => ⟨rfl, rfl⟩⟩

/-- A walk that never comes to a place is the same whatever is written there. -/
theorem walk_write_of_ne {start : Location} {names : List Text}
    (h : ∀ begun, begun <+: names → tree.walk start begun ≠ .ok place) (content : Text) :
    (tree.write place content).walk start names = tree.walk start names := by
  induction names generalizing start with
  | nil => rfl
  | cons name names ih =>
      have hstart : start ≠ place := by
        intro heq
        exact h [] List.nil_prefix (congrArg Except.ok heq)
      have hnode : (tree.write place content).nodeAt? start = tree.nodeAt? start :=
        nodeAt?_write_of_ne content hstart
      rcases walk_cons_cases hnode name with ⟨fault, hfails⟩ | ⟨next, hleads⟩
      · rw [(hfails names).1, (hfails names).2]
      · rw [(hleads names).1, (hleads names).2]
        apply ih
        intro begun hbegun
        rw [← (hleads begun).1]
        exact h (name :: begun) (List.cons_prefix_cons.mpr ⟨rfl, hbegun⟩)

variable {directory : Location} {path : Text}
  (h : ¬ tree.LeadsThrough directory path place) (content : Text)

include h

theorem locate_write_of_not_leadsThrough :
    (tree.write place content).locate directory path = tree.locate directory path := by
  have hwalk : ∀ begun, begun <+: Text.pieces '/' path →
      tree.walk (startOf directory path) begun ≠ .ok place := by
    intro begun hbegun heq
    exact h ⟨begun, hbegun, heq⟩
  rw [locate, locate, walk_write_of_ne hwalk]

/-- **A new file is seen by the paths that lead through its place only.** -/
theorem read_write_of_not_leadsThrough :
    (tree.write place content).read directory path = tree.read directory path := by
  rw [read, read, locate_write_of_not_leadsThrough h]
  cases hlocate : tree.locate directory path with
  | error fault => rfl
  | ok found =>
      have hne : found ≠ place := by
        intro heq
        rw [locate] at hlocate
        split at hlocate
        · cases hlocate
        · split at hlocate
          · cases hlocate
          · exact h ⟨_, List.prefix_rfl, heq ▸ hlocate⟩
      have hread : (tree.write place content).readAt found = tree.readAt found := by
        rw [readAt, readAt, nodeAt?_write_of_ne content hne]
      show (do return (found, ← (tree.write place content).readAt found)) = _
      rw [hread]
      rfl

end New

end FileTree

/-! ## The configuration after a write -/

namespace Config

variable {tree : FileTree} {place : Location} {old : Option Text}

/-- A configuration file in the directory itself is found first. -/
theorem find?_of_has {tree : FileTree} {directory : Location}
    (h : tree.has (directory.child fileName) = true) :
    find? tree directory = some (directory.child fileName) := by
  rw [find?]
  cases hreverse : directory.reverse with
  | nil =>
      obtain rfl : directory = [] := List.reverse_eq_nil_iff.mp hreverse
      rw [findUpwards?, findIn?, if_pos h]
  | cons name above =>
      rw [findUpwards?, ← hreverse, List.reverse_reverse, findIn?, if_pos h]

/-- The search for a configuration file looks at names only. -/
theorem find?_write (h : tree.nodeAt? place = some (.file old)) (content : Text)
    (directory : Location) :
    find? (tree.write place content) directory = find? tree directory := by
  rw [find?, find?]
  induction directory.reverse with
  | nil => simp only [findUpwards?, findIn?, FileTree.has_write h]
  | cons name above ih => simp only [findUpwards?, findIn?, FileTree.has_write h, ih]

/-- A write into another file leaves the configuration in force as it is. -/
theorem load_write (h : tree.nodeAt? place = some (.file old)) (content : Text)
    {directory : Location} (hother : find? tree directory ≠ some place) :
    load (tree.write place content) directory = load tree directory := by
  rw [load, load, find?_write h]
  cases hfind : find? tree directory with
  | none => rfl
  | some found =>
      have hne : found ≠ place := fun heq => hother (by rw [hfind, heq])
      have hread : (tree.write place content).readAt found = tree.readAt found := by
        rw [FileTree.readAt, FileTree.readAt, FileTree.nodeAt?_write_of_ne content hne]
      simp only [loadAt, hread]

/-- The configuration in force stands in the file that is found; it is the default one if
there is none. -/
theorem load_eq_ok_iff {tree : FileTree} {directory : Location} {config : Config}
    {found : Option Location} :
    load tree directory = .ok (config, found) ↔ find? tree directory = found ∧
      match found with
      | none => config = default
      | some place => loadAt tree place = .ok config := by
  rw [load]
  cases hfind : find? tree directory with
  | none =>
      constructor
      · rintro ⟨rfl⟩
        exact ⟨rfl, rfl⟩
      · rintro ⟨rfl, rfl⟩
        rfl
  | some place =>
      cases hload : loadAt tree place with
      | error fault =>
          simp only [hload, bind, Except.bind, reduceCtorEq, false_iff, not_and]
          rintro rfl
          simp [hload]
      | ok loaded =>
          simp only [hload, bind, Except.bind, pure, Except.pure, Except.ok.injEq,
            Prod.mk.injEq]
          constructor
          · rintro ⟨rfl, rfl⟩
            exact ⟨rfl, hload⟩
          · rintro ⟨rfl, hconfig⟩
            exact ⟨Except.ok.inj (hload.symm.trans hconfig), rfl⟩

end Config

/-! ## Sessions -/

/-- The language of a file, as the settings or else the configuration say. -/
def Settings.languageOf (settings : Settings) (config : Config) (path : Text) : Text :=
  settings.language.getD (config.commentSyntax.languageFor (FilePath.ofText path))

/-- The comment token of a file. -/
def Settings.tokenOf (settings : Settings) (config : Config) (path : Text) : Text :=
  config.commentSyntax.tokenFor (settings.languageOf config path)

namespace Session

/-- A session starts where the configuration loads. -/
theorem start_eq (env : Environment) (settings : Settings) :
    start env settings = match Config.load env.tree env.directory with
      | .ok (config, found) => .ok ⟨env, settings, config, found⟩
      | .error fault => .error (.config fault) := by
  rw [start]
  cases Config.load env.tree env.directory <;> rfl

/-- A session reads a file as a document of its language. -/
theorem load_eq (env : Environment) (settings : Settings) (config : Config)
    (found : Option Location) (path : Text) :
    load ⟨env, settings, config, found⟩ path =
      match env.tree.read env.directory path with
      | .ok (place, text) => .ok
          { path, place, document := .ofText (settings.languageOf config path) text }
      | .error fault => .error (.unreadable path fault) := rfl

end Session

end InlineChoice
