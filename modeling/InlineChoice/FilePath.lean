import InlineChoice.Text

/-!
# File paths

A path is a sequence of bytes, because a file system does not promise that a
name is UTF-8. The only question asked of a path as such is which extension its
file name has; an extension is a text, so one that is not UTF-8 is none.
-/

namespace InlineChoice

/-- A path, as its bytes. -/
structure FilePath where
  bytes : List UInt8
  deriving DecidableEq, Repr

namespace FilePath

/-- The byte between the components of a path. -/
def separator : UInt8 := 0x2F

/-- The byte in front of an extension. -/
def dot : UInt8 := 0x2E

/-- The path that a text spells. -/
def ofText (t : Text) : FilePath := ⟨t.utf8⟩

/-- The components of a path; neither a repeated separator nor the current
directory is one. -/
def components (path : FilePath) : List (List UInt8) :=
  (Text.pieces separator path.bytes).filter fun c => c ≠ [] && c ≠ [dot]

/-- The last component, unless it names a parent directory. -/
def fileName? (path : FilePath) : Option (List UInt8) := do
  let name ← path.components.getLast?
  if name = [dot, dot] then none else some name

/-- The bytes after the last dot of a file name. A dot at the start of the name
begins no extension. -/
def extensionBytes? (path : FilePath) : Option (List UInt8) := do
  let name ← path.fileName?
  let extension := (name.reverse.takeWhile (· ≠ dot)).reverse
  if name.length ≤ extension.length + 1 then none else some extension

/-- The extension of a path, if its file name has one that is a text. -/
def extension? (path : FilePath) : Option Text := do
  Text.ofUtf8? (← path.extensionBytes?)

end FilePath

end InlineChoice
