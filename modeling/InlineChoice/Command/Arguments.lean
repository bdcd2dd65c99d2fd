import InlineChoice.Command

/-!
# Reading the command line

The first argument names the command, and each command has flags, options and operands
of its own (`Grammar`). Flags and options may stand anywhere behind the name; `--` ends
them. An option takes the rest of its argument behind `=`, or the next argument, which
may not look like an option.

Arguments are read from left to right, so a request for help counts only if everything
in front of it is right.
-/

namespace InlineChoice

/-- What a command line gets that asks for no command, or for one in the wrong way. -/
inductive Usage where
  | help
  | version
  /-- The arguments are wrong. -/
  | misuse
  deriving DecidableEq, Repr

/-- What a command line asks for. -/
inductive Invocation where
  /-- Nothing; this shows an overview of the commands. -/
  | overview
  | command (command : Command)
  deriving DecidableEq, Repr

namespace Arguments

/-! ## Grammars -/

/-- The kinds of operands. -/
inductive Operand where
  /-- The path of a file, which is not empty. -/
  | path
  /-- The number of a line. -/
  | line
  /-- Any text. -/
  | value
  deriving DecidableEq, Repr

/-- What the arguments of a command may be. -/
structure Grammar where
  flags : List Text
  /-- The options, each of which has a value. -/
  options : List Text
  /-- The flags that have a letter, too. -/
  letters : List (Char × Text)
  operands : List Operand
  /-- Whether the last operand may occur many times. -/
  isOpen : Bool

/-- The arguments of a command, sorted. -/
structure Words where
  flags : List Text := []
  options : List (Text × Text) := []
  /-- The operands in order. -/
  operands : List Text := []

/-- The largest line number. -/
def largestLine : Nat := 0xFFFFFFFFFFFFFFFF

/-- The number that a numeral spells: decimal digits with an optional plus sign. -/
def numeral? (t : Text) : Option Nat :=
  let digits : Text := if t.head? = some '+' then t.tail else t
  if digits = [] || !digits.all Char.isDigit then none
  else
    let n := digits.foldl (fun n c => n * 10 + (c.toNat - '0'.toNat)) 0
    if n ≤ largestLine then some n else none

/-- Whether a text may be an operand of a kind. -/
def Operand.accepts (t : Text) : Operand → Bool
  | path => t ≠ []
  | line => (numeral? t).isSome
  | value => true

/-- Whether an argument looks like a flag or an option. -/
def looksLikeOption (t : Text) : Bool :=
  t.head? = some '-' && t ≠ ['-']

namespace Words

/-- The words with one more flag, which may occur only once. -/
def addFlag (words : Words) (name : Text) : Except Usage Words :=
  if words.flags.contains name then .error .misuse
  else .ok { words with flags := name :: words.flags }

/-- The words with one more option, which may occur only once. -/
def addOption (words : Words) (name value : Text) : Except Usage Words :=
  if (words.options.lookup name).isSome then .error .misuse
  else .ok { words with options := (name, value) :: words.options }

/-- The words with one more operand. -/
def addOperand (g : Grammar) (words : Words) (t : Text) : Except Usage Words :=
  let last := if g.isOpen then g.operands.getLast? else none
  match g.operands[words.operands.length]? <|> last with
  | none => .error .misuse
  | some operand =>
    if operand.accepts t then .ok { words with operands := words.operands ++ [t] }
    else .error .misuse

/-- The words with the flags that some letters stand for. -/
def addLetters (g : Grammar) (words : Words) : List Char → Except Usage Words
  | [] => .ok words
  | c :: rest =>
    if c = 'h' then .error .help
    else match g.letters.lookup c with
      | none => .error .misuse
      | some name => do addLetters g (← words.addFlag name) rest

end Words

/-- The name of a long option and the value behind its equals sign, if it has one. -/
def splitLong (t : Text) : Text × Option Text :=
  match t.dropWhile (· ≠ '=') with
  | [] => (t, none)
  | _ :: value => (t.takeWhile (· ≠ '='), some value)

/-- Reads the arguments behind the name of a command. -/
def readWords (g : Grammar) (words : Words) : List Text → Except Usage Words
  | [] => .ok words
  | arg :: rest =>
    match arg with
    | ['-', '-'] => rest.foldlM (Words.addOperand g) words
    | '-' :: '-' :: long =>
      match splitLong long with
      | (name, some value) =>
        if g.options.contains name then do readWords g (← words.addOption name value) rest
        else .error .misuse
      | (name, none) =>
        if name = "help".toList then .error .help
        else if g.flags.contains name then do readWords g (← words.addFlag name) rest
        else if g.options.contains name then
          match rest with
          | [] => .error .misuse
          | value :: rest =>
            if looksLikeOption value then .error .misuse
            else do readWords g (← words.addOption name value) rest
        else .error .misuse
    | '-' :: letter :: letters => do readWords g (← words.addLetters g (letter :: letters)) rest
    | _ => do readWords g (← words.addOperand g arg) rest

/-! ## Commands -/

/-- The names of the commands. -/
inductive Verb where
  | list
  | toggle
  | set
  | check
  | init
  deriving DecidableEq, Repr

namespace Verb

/-- The command with a name. -/
def ofText? (t : Text) : Option Verb :=
  match String.ofList t with
  | "list" => some list
  | "toggle" => some toggle
  | "set" => some set
  | "check" => some check
  | "init" => some init
  | _ => none

/-- The flags that all commands on files have. -/
def verboseName : Text := "verbose".toList

/-- The options that all commands on files have. -/
def languageName : Text := "language".toList

/-- The flag that has a file written. -/
def applyName : Text := "apply".toList

/-- The grammar of a command on files. -/
def fileGrammar (flags options : List Text) (operands : List Operand) (isOpen : Bool) :
    Grammar where
  flags := verboseName :: flags
  options := languageName :: options
  letters := [('v', verboseName)]
  operands
  isOpen

/-- The grammar of a command. -/
def grammar : Verb → Grammar
  | list =>
    fileGrammar ["case-sensitive".toList, "regex".toList, "json".toList] ["filter".toList]
      [.path] true
  | toggle => fileGrammar [applyName] [] [.path, .line] false
  | set => fileGrammar [applyName] [] [.path, .line, .value] false
  | check => fileGrammar [] [] [.path] true
  | init => { flags := [], options := [], letters := [], operands := [], isOpen := false }

/-- The settings of a command on files. Without an option, the language is the one that
the environment asks for. -/
def settings (language : Option Text) (words : Words) : Settings where
  language := words.options.lookup languageName <|> language
  verbose := words.flags.contains verboseName

/-- The request of a command that edits a line. -/
def editRequest (settings : Settings) (words : Words) (file : Text) (line : Nat) : EditRequest where
  file
  line
  apply := words.flags.contains applyName
  settings

/-- The command that some words make up. All operands but the last ones of an open
grammar are needed, and one of these. -/
def command? (language : Option Text) (words : Words) (verb : Verb) : Option Command :=
  let settings := settings language words
  match verb, words.operands with
  | list, file :: files => some (.list
      { files := file :: files
        query := words.options.lookup "filter".toList
        caseSensitive := words.flags.contains "case-sensitive".toList
        asPattern := words.flags.contains "regex".toList
        asJson := words.flags.contains "json".toList
        settings })
  | toggle, [file, line] => do
    return .toggle (editRequest settings words file (← numeral? line))
  | set, [file, line, value] => do
    return .set (editRequest settings words file (← numeral? line)) value
  | check, file :: files => some (.check { files := file :: files, settings })
  | init, [] => some .init
  | _, _ => none

/-- Reads the arguments behind a command's name. -/
def read (language : Option Text) (args : List Text) (verb : Verb) : Except Usage Invocation := do
  let words ← readWords verb.grammar {} args
  match verb.command? language words with
  | some command => .ok (.command command)
  | none => .error .misuse

end Verb

/-- What a request for help gets. At most one command can be named. -/
def usageOfHelp : List Text → Usage
  | [] => .help
  | [name] =>
    if name = "help".toList || (Verb.ofText? name).isSome then .help else .misuse
  | _ => .misuse

/-- What a flag in front of a command gets. A letter decides before those behind it. -/
def usageOfFlag (arg : Text) : Usage :=
  match arg with
  | '-' :: 'h' :: _ => .help
  | '-' :: 'V' :: _ => .version
  | _ =>
    if arg = "--help".toList then .help
    else if arg = "--version".toList then .version
    else .misuse

end Arguments

/-- Reads a command line, with the language that the environment asks for, if any. -/
def Invocation.read (language : Option Text) : List Text → Except Usage Invocation
  | [] => .ok .overview
  | name :: rest =>
    if name = "--".toList then if rest = [] then .ok .overview else .error .misuse
    else if name = "help".toList then .error (Arguments.usageOfHelp rest)
    else match Arguments.Verb.ofText? name with
      | some verb => verb.read language rest
      | none => .error (Arguments.usageOfFlag name)

end InlineChoice
