import InlineChoice.FilePath
import InlineChoice.Marker

/-!
# Languages

The languages that are known without configuration: the token that starts a line
comment in each, and the file extensions that belong to it. A language without
an entry has the token `#`, and an extension without an entry belongs to plain
text.
-/

namespace InlineChoice

namespace Language

/-- The language of a file whose extension is not known. -/
def plainText : Text := "plaintext".toList

/-- The languages whose line comments start with two slashes. -/
def slashed : List Text :=
  ["javascript", "typescript", "java", "c", "cpp", "csharp", "go", "rust", "swift",
   "kotlin", "php", "dart"].map String.toList

/-- The comment token of a language. -/
def commentToken (language : Text) : CommentToken :=
  if slashed.contains language then .slashes else .hash

/-- The languages with their file extensions, in lower case. -/
def extensions : List (Text × List Text) :=
  [("python", ["py", "pyw"]), ("ruby", ["rb"]), ("perl", ["pl", "pm"]), ("r", ["r"]),
   ("yaml", ["yml", "yaml"]), ("shellscript", ["sh", "bash"]), ("powershell", ["ps1"]),
   ("javascript", ["js", "mjs", "cjs", "jsx"]), ("typescript", ["ts", "mts", "cts", "tsx"]),
   ("java", ["java"]), ("c", ["c", "h"]), ("cpp", ["cc", "cpp", "cxx", "hpp", "hh"]),
   ("csharp", ["cs"]), ("go", ["go"]), ("rust", ["rs"]), ("swift", ["swift"]),
   ("kotlin", ["kt", "kts"]), ("php", ["php"]), ("dart", ["dart"])].map
    fun (language, known) => (language.toList, known.map String.toList)

/-- The language to which an extension in lower case belongs. -/
def ofExtension (extension : Text) : Text :=
  match extensions.find? fun (_, known) => known.contains extension with
  | some (language, _) => language
  | none => plainText

/-- The language of a path, by its extension in ASCII lower case. -/
def ofPath (path : FilePath) : Text :=
  match path.extension? with
  | some extension => ofExtension extension.asciiLower
  | none => plainText

end Language

end InlineChoice
