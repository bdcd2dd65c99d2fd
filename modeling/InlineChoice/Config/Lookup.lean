import InlineChoice.Config.Reader
import InlineChoice.FileTree
import InlineChoice.Text.Quoted

/-!
# Finding the configuration

The configuration in force is that of the nearest directory that has one, from the
working directory upwards. The search does not leave a repository: a directory with an
entry `.git` is the last one where it looks. Where nothing is found, the default
configuration is in force (`Config.load`); one that is found but is of no use is a
fault, whatever lies above it.

The search asks for places and not for paths that were given, so `FileTree.longestPath`
does not bound it: a working directory whose own path comes near that length is left out
here.
-/

namespace InlineChoice

namespace Config

/-- The name of a configuration file. -/
def fileName : Text := ".cbtogglerc.json".toList

/-- The name of the entry that marks the top of a repository. -/
def repositoryName : Text := ".git".toList

/-- The configuration file in force in a directory, given the one that is in force in
the directory around it. -/
def findIn? (tree : FileTree) (directory : Location) (around : Option Location) :
    Option Location :=
  if tree.has (directory.child fileName) then some (directory.child fileName)
  else if tree.has (directory.child repositoryName) then none
  else around

/-- The configuration file in force in a directory; the names on the way to it are given
in reverse. -/
def findUpwards? (tree : FileTree) : List Text → Option Location
  | [] => findIn? tree [] none
  | name :: above => findIn? tree (name :: above).reverse (findUpwards? tree above)

/-- The configuration file in force in a directory. -/
def find? (tree : FileTree) (directory : Location) : Option Location :=
  findUpwards? tree directory.reverse

/-- The places at which the search in a directory, given in reverse, may look. -/
def placesAbove : List Text → List Location
  | [] => [[fileName], [repositoryName]]
  | name :: above =>
    let directory : Location := (name :: above).reverse
    directory.child fileName :: directory.child repositoryName :: placesAbove above

/-- Why a configuration file is of no use. -/
inductive LoadFault where
  | unreadable (place : Location) (fault : ReadFault)
  | malformed (place : Location) (fault : Json.Fault)
  | refused (fault : Fault)
  deriving DecidableEq, Repr

/-- The wording of a fault. -/
def LoadFault.message : LoadFault → Text
  | unreadable place fault =>
    "Failed to read config file: ".toList ++ place.path.quoted ++ ": ".toList ++ fault.message
  | malformed place fault =>
    "Failed to parse config file: ".toList ++ place.path.quoted ++ ": ".toList ++ fault.name
  | refused fault => fault.message

/-- The configuration in a file. -/
def loadAt (tree : FileTree) (place : Location) : Except LoadFault Config := do
  let text ← (tree.readAt place).mapError (LoadFault.unreadable place)
  let config ← (read text).mapError (LoadFault.malformed place)
  match config.fault? with
  | some fault => throw (.refused fault)
  | none => pure config

/-- The configuration in force in a directory, and the file that holds it. -/
def load (tree : FileTree) (directory : Location) :
    Except LoadFault (Config × Option Location) :=
  match find? tree directory with
  | some place => do return (← loadAt tree place, some place)
  | none => .ok (default, none)

end Config

end InlineChoice
