import InlineChoice.Config.Lookup

/-!
# Outcomes

What a command does, as a value: what it writes to the terminal, the status it ends
with, and the one file that it writes. A command that cannot be carried out ends with a
failure, which is a cause and not a text.
-/

namespace InlineChoice

/-- How a command ends. -/
inductive ExitStatus where
  | success
  /-- Values are invalid, or an edit is not possible. -/
  | failure
  /-- A file or the configuration could not be read. -/
  | error
  /-- The command broke off while it was writing. What the run-time system says about that is
  not part of the outcome. -/
  | aborted
  deriving DecidableEq, Repr

/-- The number of a status. -/
def ExitStatus.code : ExitStatus → Nat
  | success => 0
  | failure => 1
  | error => 2
  | aborted => 101

/-- Why a command cannot be carried out. -/
inductive Failure where
  | config (fault : Config.LoadFault)
  | unreadable (path : Text) (fault : ReadFault)
  /-- A file has fewer lines than the one that was asked for. -/
  | noSuchLine (path : Text) (line count : Nat)
  /-- An edit names a line that the document does not have. -/
  | lineGone (place : Text)
  deriving DecidableEq, Repr

/-- The wording of a failure. -/
def Failure.message : Failure → Text
  | config fault => fault.message
  | unreadable path fault =>
    "Failed to read file: ".toList ++ path ++ ": ".toList ++ fault.message
  | noSuchLine path line count =>
    "Line ".toList ++ Text.ofNat line ++ " is out of range: ".toList ++ path
      ++ " has ".toList ++ Text.ofNat count ++ " line(s)".toList
  | lineGone place => "Line ".toList ++ place ++ " no longer exists".toList

/-- What a command does. -/
structure Outcome where
  status : ExitStatus
  /-- What it writes to standard output. -/
  output : Text := []
  /-- What it writes to standard error, apart from its failure. -/
  notes : Text := []
  failure : Option Failure := none
  /-- The file that it writes, with its new text. -/
  written : Option (Location × Text) := none

namespace Outcome

/-- The outcome of a command that cannot be carried out. -/
def failed (failure : Failure) (notes : Text) : Outcome :=
  { status := .error, notes, failure := some failure }

/-- The file tree after a command. -/
def treeAfter (outcome : Outcome) (tree : FileTree) : FileTree :=
  match outcome.written with
  | none => tree
  | some (place, content) => tree.write place content

end Outcome

end InlineChoice
