import InlineChoice.CommentSyntax
import InlineChoice.Dictionary
import InlineChoice.Json.Value

/-!
# Configuration

A configuration overrides the built-in languages: it gives file extensions a
language, and languages a comment token. It is accepted (`Config.fault?`) if no
key and no language is blank and every token is a run of characters without white
space, so that a token it gives can stand in front of a tag.
-/

namespace InlineChoice

/-- A configuration. -/
structure Config where
  /-- Languages by file extension. -/
  languages : Dictionary
  /-- Comment tokens by language. -/
  commentTokens : Dictionary

namespace Config

/-- The names of the two parts of a configuration in its text. -/
def languagesName : Text := "languages".toList

@[inherit_doc languagesName]
def commentTokensName : Text := "commentTokens".toList

/-- The configuration that is in force where none is written. -/
def default : Config where
  languages := Dictionary.ofList
    [("hs".toList, "haskell".toList), ("lua".toList, "lua".toList), ("sql".toList, "sql".toList)]
  commentTokens := Dictionary.ofList
    [("haskell".toList, "--".toList), ("lua".toList, "--".toList), ("sql".toList, "--".toList)]

/-- The syntax with the overrides of a configuration. Of extensions that differ in
leading dots or ASCII case only, the greatest one counts. -/
def commentSyntax (config : Config) : CommentSyntax :=
  let withTokens := config.commentTokens.entries.foldl
    (fun syn (language, token) => syn.withToken language token) CommentSyntax.empty
  config.languages.entries.foldl
    (fun syn (extension, language) => syn.withLanguage extension language) withTokens

/-! ## Acceptance -/

/-- What is wrong with a configuration. -/
inductive Fault where
  /-- A comment token for a blank language. -/
  | blankTokenLanguage
  /-- A comment token that is empty or holds white space. -/
  | badToken (language token : Text)
  /-- A blank file extension. -/
  | blankExtension
  /-- A blank language for a file extension. -/
  | blankLanguage (extension : Text)
  deriving DecidableEq, Repr

/-- The wording of a fault. -/
def Fault.message : Fault → Text
  | blankTokenLanguage => "Empty language id in 'commentTokens'".toList
  | badToken language token =>
    "Invalid comment token in 'commentTokens' for \"".toList ++ language ++ "\": \"".toList
      ++ token ++ "\"".toList
  | blankExtension => "Empty file extension in 'languages'".toList
  | blankLanguage extension =>
    "Empty language id in 'languages' for \"".toList ++ extension ++ "\"".toList

/-- The fault of one comment token. -/
def tokenFault? (language token : Text) : Option Fault :=
  if language.trim = [] then some .blankTokenLanguage
  else if token = [] || token.any Text.isBlank then some (.badToken language token)
  else none

/-- The fault of one file extension. -/
def extensionFault? (extension language : Text) : Option Fault :=
  if Text.trim (extension.dropWhile (· = '.')) = [] then some .blankExtension
  else if language.trim = [] then some (.blankLanguage extension)
  else none

/-- The first fault of a configuration: the comment tokens come first, and both
parts are taken by increasing key. -/
def fault? (config : Config) : Option Fault :=
  (config.commentTokens.entries.findSome? fun (language, token) => tokenFault? language token)
    <|> (config.languages.entries.findSome?
      fun (extension, language) => extensionFault? extension language)

/-! ## Text -/

/-- A dictionary as an object of strings. -/
def jsonOf (d : Dictionary) : Json :=
  .object (d.entries.map fun (key, value) => (key, .string value))

/-- The text of a configuration. -/
def render (config : Config) : Text :=
  Json.pretty (.object
    [(languagesName, jsonOf config.languages), (commentTokensName, jsonOf config.commentTokens)])

end Config

end InlineChoice
