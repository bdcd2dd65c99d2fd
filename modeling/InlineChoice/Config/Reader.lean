import InlineChoice.Config
import InlineChoice.Json.Reader

/-!
# Reading a configuration

A configuration is an object with the fields `languages` and `commentTokens`, each
an object of strings. Both may be missing and stand in any order, and other fields
are passed over. The two parts may also be the items of an array, in this order.

A field that occurs twice is a fault, but of equal keys in a part the last one
counts.
-/

namespace InlineChoice

namespace Config

open Json (Reading skipBlanks readColon readString)

/-! ## Members of an object -/

/-- The place of a reader in an object: its closing bracket, or the text of a
name after the opening quote. -/
inductive Member where
  | close (rest : Text)
  | name (rest : Text)

/-- The next member of an object; a comma stands in front of all but the first. -/
def nextMember (first : Bool) (t : Text) : Except Json.Fault Member :=
  match skipBlanks t with
  | [] => .error .unfinished
  | '\x7d' :: rest => .ok (.close rest)
  | '"' :: rest => if first then .ok (.name rest) else .error .malformed
  | ',' :: rest =>
    if first then .error .malformed
    else match skipBlanks rest with
      | [] => .error .unfinished
      | '"' :: rest => .ok (.name rest)
      | _ => .error .malformed
  | _ => .error .malformed

/-! ## Dictionaries -/

/-- A string value. -/
def readText (t : Text) : Reading Text :=
  match skipBlanks t with
  | '"' :: rest => readString rest
  | rest => .error (.ofUnexpected rest)

/-- The entries of an object of strings after its opening bracket, added to a
dictionary. Each entry takes a character or more off the text, so its length is
fuel enough. -/
def readEntries : (fuel : Nat) → (first : Bool) → Dictionary → Text →
    Except Json.Fault (Dictionary × Text)
  | 0, _, _, _ => .error .unfinished
  | fuel + 1, first, d, t => do
    match ← nextMember first t with
    | .close rest => pure (d, rest)
    | .name rest =>
      let (key, rest) ← readString rest
      let (value, rest) ← readText (← readColon rest)
      readEntries fuel false (d.insert key value) rest

/-- An object of strings. -/
def readDictionary (t : Text) : Reading Dictionary :=
  match skipBlanks t with
  | '\x7b' :: rest => readEntries (rest.length + 1) true Dictionary.empty rest
  | rest => .error (.ofUnexpected rest)

/-! ## Configurations -/

/-- The parts that have been read so far. -/
structure Parts where
  languages : Option Dictionary
  commentTokens : Option Dictionary

/-- The configuration with some parts; a missing part is empty. -/
def Parts.config (parts : Parts) : Config :=
  ⟨parts.languages.getD .empty, parts.commentTokens.getD .empty⟩

/-- The fields of a configuration after the opening bracket. -/
def readFields : (fuel : Nat) → (first : Bool) → Parts → Text →
    Except Json.Fault (Parts × Text)
  | 0, _, _, _ => .error .unfinished
  | fuel + 1, first, parts, t => do
    match ← nextMember first t with
    | .close rest => pure (parts, rest)
    | .name rest =>
      let (name, rest) ← readString rest
      if name = languagesName then
        if parts.languages.isSome then throw .mismatched
        let (d, rest) ← readDictionary (← readColon rest)
        readFields fuel false { parts with languages := some d } rest
      else if name = commentTokensName then
        if parts.commentTokens.isSome then throw .mismatched
        let (d, rest) ← readDictionary (← readColon rest)
        readFields fuel false { parts with commentTokens := some d } rest
      else
        readFields fuel false parts (← Json.skipValue (← readColon rest))

/-- The parts of a configuration as the items of an array, after the opening
bracket. -/
def readItems (t : Text) : Except Json.Fault (Parts × Text) := do
  match skipBlanks t with
  | [] => throw .unfinished
  | ']' :: rest => pure (⟨none, none⟩, rest)
  | first =>
    let (languages, rest) ← readDictionary first
    match skipBlanks rest with
    | [] => throw .unfinished
    | ']' :: rest => pure (⟨some languages, none⟩, rest)
    | ',' :: rest =>
      match skipBlanks rest with
      | [] => throw .unfinished
      | ']' :: _ => throw .malformed
      | second =>
        let (commentTokens, rest) ← readDictionary second
        match skipBlanks rest with
        | [] => throw .unfinished
        | ']' :: rest => pure (⟨some languages, some commentTokens⟩, rest)
        | _ => throw .malformed
    | _ => throw .malformed

/-- The configuration with a given text. -/
def read (t : Text) : Except Json.Fault Config := do
  let (parts, rest) ← match skipBlanks t with
    | '\x7b' :: rest => readFields (rest.length + 1) true ⟨none, none⟩ rest
    | '[' :: rest => readItems rest
    | rest => throw (.ofUnexpected rest)
  if skipBlanks rest = [] then pure parts.config else throw .malformed

end Config

end InlineChoice
