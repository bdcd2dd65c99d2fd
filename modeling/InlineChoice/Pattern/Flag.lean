import InlineChoice.Text

/-!
# Flags of patterns

A flag changes what the following part of a pattern means. Flags are set and
cleared by letters in a group, as in `(?i-s:…)`; a group that holds nothing else,
`(?i)`, changes them up to the end of the group around it.
-/

namespace InlineChoice

namespace Pattern

/-- A switch for the meaning of a pattern. -/
inductive Flag where
  /-- Letters that differ in case only match each other. -/
  | ignoreCase
  /-- `^` and `$` also stand at the ends of lines. -/
  | multiLine
  /-- `.` also matches the end of a line. -/
  | dotAll
  /-- Repetitions prefer fewer rounds. This does not change whether a text matches. -/
  | reluctant
  /-- Classes and case are those of Unicode, not those of ASCII. -/
  | unicode
  /-- A carriage return ends a line, too. -/
  | returns
  /-- Blanks and comments in the pattern are skipped. -/
  | verbose
  deriving DecidableEq, Repr

/-- The flag that a letter stands for. -/
def Flag.ofLetter? : Char → Option Flag
  | 'i' => some .ignoreCase
  | 'm' => some .multiLine
  | 's' => some .dotAll
  | 'U' => some .reluctant
  | 'u' => some .unicode
  | 'R' => some .returns
  | 'x' => some .verbose
  | _ => none

/-- Flags with what they become. -/
abbrev FlagChanges := List (Flag × Bool)

/-- The flags that are set. -/
abbrev Flags := List Flag

namespace Flags

/-- Whether a flag is set. -/
def has (flags : Flags) (flag : Flag) : Bool :=
  flags.contains flag

/-- The flags after one has been set or cleared. -/
def change (flags : Flags) : Flag × Bool → Flags
  | (flag, true) => flag :: flags
  | (flag, false) => flags.filter (· ≠ flag)

/-- The flags after some changes. -/
def changed (flags : Flags) (changes : FlagChanges) : Flags :=
  changes.foldl change flags

end Flags

namespace FlagChanges

/-- Where the reader stands among the letters: before the minus sign, right behind
it, or after a letter behind it. -/
inductive Phase where
  | setting
  | minus
  | clearing
  deriving DecidableEq

/-- Reads letters up to the colon or parenthesis that ends them, which is left. No
letter and no minus sign may occur twice, and a minus sign needs a letter behind it. -/
def readFrom? (phase : Phase) (known : FlagChanges) : Text → Option (FlagChanges × Text)
  | [] => none
  | c :: rest =>
    if c = ':' || c = ')' then
      if phase = .minus then none else some (known.reverse, c :: rest)
    else if c = '-' then
      if phase = .setting then readFrom? .minus known rest else none
    else match Flag.ofLetter? c with
      | none => none
      | some flag =>
        if known.any (·.1 = flag) then none
        else
          let next := if phase = .setting then Phase.setting else Phase.clearing
          readFrom? next ((flag, phase = .setting) :: known) rest

/-- Reads the letters of a group. -/
def read? (t : Text) : Option (FlagChanges × Text) :=
  readFrom? .setting [] t

end FlagChanges

end Pattern

end InlineChoice
