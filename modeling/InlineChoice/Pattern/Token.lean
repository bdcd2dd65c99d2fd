import InlineChoice.Pattern.CharSet.Reader

/-!
# Tokens of patterns

A pattern is cut into tokens before its groups are put together. Whether blanks and
comments are skipped depends on the groups that are open, so the scanner keeps the
flag `verbose` of each of them (`Token.scan?`).
-/

namespace InlineChoice

namespace Pattern

/-- A part of a pattern. -/
inductive Token where
  | literal (l : Literal)
  /-- Any character. -/
  | dot
  | assertion (assertion : Assertion)
  | set (set : CharSet)
  /-- Repeats the item in front of it. -/
  | repetition (least : Nat) (most : Option Nat)
  | openGroup (name : Option Text) (changes : FlagChanges)
  | closeGroup
  /-- Separates alternatives. -/
  | bar
  /-- Changes flags for the rest of the group. -/
  | changeFlags (changes : FlagChanges)

namespace Token

/-! ## Repetitions -/

/-- The largest number in a repetition. -/
def largestCount : Nat := 0xFFFFFFFF

/-- Reads a number with blanks around it. -/
def readCount? (t : Text) : Option (Nat × Text) :=
  let t := Text.trimStart t
  let digits := t.takeWhile Char.isDigit
  let n := digits.foldl (fun n c => n * 10 + (c.toNat - '0'.toNat)) 0
  if digits = [] || n > largestCount then none
  else some (n, Text.trimStart (t.dropWhile Char.isDigit))

/-- The bounds that stand in braces: one number, a lower bound and a comma, or both
bounds in order. -/
def countsOf? (content : Text) : Option (Nat × Option Nat) :=
  match readCount? content with
  | some (n, []) => some (n, some n)
  | some (n, [',']) => some (n, none)
  | some (n, ',' :: rest) =>
    match readCount? rest with
    | some (m, []) => if n ≤ m then some (n, some m) else none
    | _ => none
  | _ => none

/-- A text without the mark at its front that makes a repetition reluctant. -/
def skipReluctant (t : Text) : Text :=
  match t with
  | '?' :: rest => rest
  | t => t

/-- Reads bounds whose opening brace has been read. -/
def readCounted? (verbose : Bool) (t : Text) : Option (Token × Text) := do
  let (content, rest) ← readBraced? verbose t
  let (least, most) ← countsOf? content
  return (repetition least most, skipReluctant (skip verbose rest))

/-! ## Groups -/

/-- Whether a character may be the first one of a name. -/
def isNameStart (c : Char) : Bool :=
  c = '_' || Unicode.BinaryProperty.alphabetic.contains c

/-- Whether a character may stand in a name. -/
def isNameChar (c : Char) : Bool :=
  isNameStart c || c = '.' || c = '[' || c = ']'
    || Unicode.Category.isOneOf ["Nd", "Nl", "No"] c

/-- Reads a name and the bracket behind it. -/
def readName? (t : Text) : Option (Text × Text) :=
  let name : Text := t.takeWhile (· ≠ '>')
  match name, t.dropWhile (· ≠ '>') with
  | first :: others, _ :: rest =>
    if isNameStart first && others.all isNameChar then some (name, rest) else none
  | _, _ => none

/-- Reads what follows an opening parenthesis. A group that would look around without
matching is refused, and so is one with a question mark and nothing else. -/
def readGroup? (verbose : Bool) (t : Text) : Option (Token × Text) :=
  match skip verbose t with
  | '?' :: '=' :: _ | '?' :: '!' :: _ | '?' :: '<' :: '=' :: _ | '?' :: '<' :: '!' :: _ => none
  | '?' :: 'P' :: '<' :: rest | '?' :: '<' :: rest =>
    (readName? rest).map fun (name, rest) => (openGroup (some name) [], rest)
  | '?' :: rest =>
    match FlagChanges.read? rest with
    | some (changes, ':' :: rest) => some (openGroup none changes, rest)
    | some (changes, _ :: rest) =>
      if changes = [] then none else some (changeFlags changes, rest)
    | _ => none
  | t => some (openGroup none [], t)

/-! ## Scanning -/

/-- The token of an escape. -/
def ofEscape : Escape → Token
  | .literal l => literal l
  | .set s => set s
  | .assertion a => assertion a

/-- Reads one token. -/
def read? (verbose : Bool) : Text → Option (Token × Text)
  | [] => none
  | '(' :: rest => readGroup? verbose rest
  | ')' :: rest => some (closeGroup, rest)
  | '|' :: rest => some (bar, rest)
  | '[' :: rest => (CharSet.read? verbose rest).map fun (s, rest) => (set s, rest)
  | '?' :: rest => some (repetition 0 (some 1), skipReluctant rest)
  | '*' :: rest => some (repetition 0 none, skipReluctant rest)
  | '+' :: rest => some (repetition 1 none, skipReluctant rest)
  | '{' :: rest => readCounted? verbose rest
  | '\\' :: rest => (Escape.read? verbose rest).map fun (escape, rest) => (ofEscape escape, rest)
  | '.' :: rest => some (dot, rest)
  | '^' :: rest => some (assertion .lineStart, rest)
  | '$' :: rest => some (assertion .lineEnd, rest)
  | c :: rest => some (literal { char := c }, rest)

/-- The flag `verbose` after some changes. -/
def verboseAfter (changes : FlagChanges) (verbose : Bool) : Bool :=
  (changes.lookup .verbose).getD verbose

/-- The flag `verbose` behind a token, and that of the groups around. -/
def scopes (verbose : Bool) (outer : List Bool) : Token → Bool × List Bool
  | openGroup _ changes => (verboseAfter changes verbose, verbose :: outer)
  | changeFlags changes => (verboseAfter changes verbose, outer)
  | closeGroup => (outer.headD verbose, outer.tail)
  | _ => (verbose, outer)

/-- The tokens of a text, in groups with the given flags. Each token has to shorten the
text. -/
def scanFrom? (verbose : Bool) (outer : List Bool) (t : Text) : Option (List Token) :=
  match skip verbose t with
  | [] => some []
  | t' =>
    match read? verbose t' with
    | none => none
    | some (token, rest) =>
      if rest.length < t.length then
        let (verbose, outer) := token.scopes verbose outer
        (scanFrom? verbose outer rest).map (token :: ·)
      else none
  termination_by t.length

/-- The tokens of a pattern. -/
def scan? (t : Text) : Option (List Token) :=
  scanFrom? false [] t

/-- The name of a group. -/
def groupName? : Token → Option Text
  | openGroup name _ => name
  | _ => none

end Token

end Pattern

end InlineChoice
