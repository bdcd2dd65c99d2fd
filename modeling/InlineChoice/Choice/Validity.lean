import InlineChoice.Choice

/-!
# Validity

A value is valid if it is one of the candidates. A missing or empty value has
nothing to check and is valid too.
-/

namespace InlineChoice

/-- A value that is not among the candidates of its annotation. -/
structure Mismatch where
  value : Text
  candidates : List Text
  deriving DecidableEq, Repr

/-- The wording of a mismatch. -/
def Mismatch.message (m : Mismatch) : Text :=
  "Variable value \"".toList ++ m.value
    ++ "\" does not match any carousel value (".toList
    ++ Text.join ", ".toList m.candidates ++ ")".toList

namespace Choice

/-- The mismatch of an annotation, if its value is not valid. -/
def mismatch? (a : Choice) : Option Mismatch :=
  match a.value? with
  | none => none
  | some value =>
    if value = [] || a.isCandidate value then none
    else some ⟨value, a.candidates⟩

/-- Whether the value of an annotation is valid. -/
def isValid (a : Choice) : Bool :=
  a.mismatch?.isNone

end Choice

/-- The mismatch on a line, if it has an annotation whose value is not valid. -/
def Line.mismatch? [PatternEngine] (token line : Text) : Option Mismatch := do
  (← Choice.parseWith? token line).mismatch?

end InlineChoice
