import InlineChoice.Pattern.Reader

/-!
# Filters on names

A filter chooses choices by their names. Its query is a piece of text that the name
must contain, or a search pattern. A pattern that cannot be read or is too large for the
engine accepts no name, and the filter says so (`isInvalid`).

Without regard to case, texts are compared by their lower case, patterns by case
folding.
-/

namespace InlineChoice

/-- A condition on names. -/
inductive NameFilter where
  /-- Accepts every name. -/
  | all
  /-- Accepts the names that contain a text. -/
  | containing (needle : Text)
  /-- Accepts the names whose lower case contains a text. -/
  | containingLower (needle : Text)
  /-- Accepts the names in which a pattern occurs. -/
  | matching (pattern : Pattern Pattern.Atom)
  /-- Accepts no name, because the query is no pattern that the engine admits. -/
  | invalid

namespace NameFilter

/-- Whether a query is meant as a pattern: it starts with a circumflex or contains an
opening bracket. -/
def looksLikePattern (query : Text) : Bool :=
  query.head? = some '^' || query.contains '['

/-- The filter for a query. The empty query accepts every name. -/
def ofQuery [PatternEngine] (query : Text) (caseSensitive isPattern : Bool) : NameFilter :=
  if query = [] then all
  else if isPattern then
    let flags := if caseSensitive then [.unicode] else [.unicode, .ignoreCase]
    match Pattern.compile? flags query with
    | some pattern => matching pattern
    | none => invalid
  else if caseSensitive then containing query
  else containingLower (Unicode.CaseMapping.lower query)

/-- Whether the query was no pattern that the engine admits. -/
def isInvalid : NameFilter → Bool
  | invalid => true
  | _ => false

/-- Whether a filter accepts a name. -/
def accepts (name : Text) : NameFilter → Bool
  | all => true
  | containing needle => Text.hasPart needle name
  | containingLower needle => Text.hasPart needle (Unicode.CaseMapping.lower name)
  | matching pattern => pattern.occursIn name
  | invalid => false

end NameFilter

end InlineChoice
