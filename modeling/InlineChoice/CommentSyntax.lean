import InlineChoice.Language

/-!
# Comment syntax

Which comment token a language has and which language a path has, with
overrides on top of the built-in languages. The last override for a language or
for an extension decides; extensions are compared without leading dots and
without regard to ASCII case.
-/

namespace InlineChoice

/-- Overrides of the built-in languages, the latest first. -/
structure CommentSyntax where
  /-- Comment tokens by language. -/
  tokens : List (Text × Text)
  /-- Languages by normalised extension. -/
  languages : List (Text × Text)

namespace CommentSyntax

/-- The built-in languages alone. -/
def empty : CommentSyntax := ⟨[], []⟩

/-- The form in which extensions are compared. -/
def normalExtension (extension : Text) : Text :=
  Text.asciiLower (extension.dropWhile (· = '.'))

/-- The syntax in which `language` has the given comment token. -/
def withToken (syn : CommentSyntax) (language token : Text) : CommentSyntax :=
  { syn with tokens := (language, token) :: syn.tokens }

/-- The syntax in which `extension` belongs to the given language. -/
def withLanguage (syn : CommentSyntax) (extension language : Text) : CommentSyntax :=
  { syn with languages := (normalExtension extension, language) :: syn.languages }

/-- The comment token of a language; an override may make it empty. -/
def tokenFor (syn : CommentSyntax) (language : Text) : Text :=
  (syn.tokens.lookup language).getD (Language.commentToken language).text

/-- The language of a path. -/
def languageFor (syn : CommentSyntax) (path : FilePath) : Text :=
  (path.extension?.bind fun extension => syn.languages.lookup extension.asciiLower).getD
    (Language.ofPath path)

end CommentSyntax

end InlineChoice
