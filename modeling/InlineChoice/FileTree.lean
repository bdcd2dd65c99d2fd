import InlineChoice.Text

/-!
# File trees

What the commands know of the file system: a directory or a file, or nothing, at every
location. A file holds a text, or bytes that are none. The system may refuse to show what
stands somewhere, and then its reason is all that is known.

Paths are resolved as the system does it (`FileTree.walk`): name by name, and each name
but the last must lead to a directory. So `a/../b` cannot be reached where `a` is a file
or is missing, and a slash at the end of a path asks for a directory.
-/

namespace InlineChoice

/-! ## Locations -/

/-- A place in a file tree, as the names on the way to it from the root. -/
abbrev Location := List Text

namespace Location

/-- The place with a given name in a directory. -/
def child (place : Location) (name : Text) : Location :=
  place ++ [name]

/-- The directory around a place; the root is its own. -/
def parent (place : Location) : Location :=
  place.dropLast

/-- The absolute path of a place. -/
def path (place : Location) : Text :=
  if place = [] then ['/'] else place.flatMap fun name => '/' :: name

end Location

/-! ## Trees -/

/-- What stands at a location. -/
inductive Node where
  | directory
  /-- A file with its text, or with none if its bytes are not UTF-8. -/
  | file (content : Option Text)
  /-- Something that the system refuses to read, with its reason. -/
  | refused (reason : Text)
  deriving DecidableEq, Repr

/-- A file system. -/
structure FileTree where
  nodeAt? : Location → Option Node

/-- Why a file cannot be read. -/
inductive ReadFault where
  | missing
  /-- A name on the way to the file leads to no directory. -/
  | throughFile
  | directory
  /-- The system refuses to read what stands there. -/
  | refused (reason : Text)
  | notText
  /-- The path holds the null character, which no name may hold. -/
  | nullCharacter
  /-- A name or the whole path is too long. -/
  | tooLong
  deriving DecidableEq, Repr

/-- The wording of a fault. -/
def ReadFault.message : ReadFault → Text
  | missing => "No such file or directory (os error 2)".toList
  | throughFile => "Not a directory (os error 20)".toList
  | directory => "Is a directory (os error 21)".toList
  | refused reason => reason
  | notText => "stream did not contain valid UTF-8".toList
  | nullCharacter => "file name contained an unexpected NUL byte".toList
  | tooLong => "File name too long (os error 36)".toList

namespace FileTree

/-- Whether something stands at a location. -/
def has (tree : FileTree) (place : Location) : Bool :=
  (tree.nodeAt? place).isSome

/-- The tree with a text at a location. -/
def write (tree : FileTree) (place : Location) (content : Text) : FileTree :=
  ⟨fun p => if p = place then some (.file (some content)) else tree.nodeAt? p⟩

/-- The tree with some entries and the directories around them. Of two entries at one
location the first counts. -/
def ofEntries (entries : List (Location × Node)) : FileTree :=
  ⟨fun place =>
    match entries.lookup place with
    | some node => some node
    | none => if entries.any (fun entry => place.isPrefixOf entry.1) then some .directory else none⟩

/-! ## Paths -/

/-- The longest name in a directory, in bytes. -/
def longestName : Nat := 255

/-- The longest path that a command may be given, in bytes. -/
def longestPath : Nat := 4095

/-- Follows names from a place. An empty name stands for the directory where it is
met, as one dot does; two dots lead to the directory around it. What cannot be read is
gone through as a directory: what stands behind it says whether this is possible. -/
def walk (tree : FileTree) : Location → List Text → Except ReadFault Location
  | place, [] => .ok place
  | place, name :: names =>
    match tree.nodeAt? place with
    | none => .error .missing
    | some (.file _) => .error .throughFile
    | some _ =>
      if name = [] || name = ['.'] then walk tree place names
      else if name = ['.', '.'] then walk tree place.parent names
      else if name.byteSize > longestName then .error .tooLong
      else walk tree (place.child name) names

/-- Where the way along a path starts: at the root, if the path is absolute. -/
def startOf (directory : Location) (path : Text) : Location :=
  if path.head? = some '/' then [] else directory

/-- The location that a path leads to from a directory. Something need not stand
there. -/
def locate (tree : FileTree) (directory : Location) (path : Text) :
    Except ReadFault Location :=
  if path.contains '\x00' then .error .nullCharacter
  else if path.byteSize > longestPath then .error .tooLong
  else tree.walk (startOf directory path) (Text.pieces '/' path)

/-- The places that `walk` may ask about on its way, the last one included. -/
def visited : Location → List Text → List Location
  | place, [] => [place]
  | place, name :: names =>
    let next := if name = [] || name = ['.'] then place
      else if name = ['.', '.'] then place.parent
      else place.child name
    place :: visited next names

/-- The places that a path may lead through from a directory. -/
def placesOn (directory : Location) (path : Text) : List Location :=
  visited (startOf directory path) (Text.pieces '/' path)

/-- The text of the file at a location. -/
def readAt (tree : FileTree) (place : Location) : Except ReadFault Text :=
  match tree.nodeAt? place with
  | none => .error .missing
  | some .directory => .error .directory
  | some (.refused reason) => .error (.refused reason)
  | some (.file none) => .error .notText
  | some (.file (some content)) => .ok content

end FileTree

end InlineChoice
