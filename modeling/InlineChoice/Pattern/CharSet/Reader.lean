import InlineChoice.Pattern.Escape

/-!
# Reading sets of characters

A bracketed set holds characters, ranges, classes and further sets, which are united,
and the operations `&&`, `--` and `~~`, which take what stands in front of them as
their left side.

The reader keeps the sets that are open (`OpenSet`), the innermost first, and takes
one item a step (`step?`). Hyphens behind the opening bracket stand for themselves,
and so does a closing bracket that is the first character.
-/

namespace InlineChoice

namespace Pattern

/-- A set whose closing bracket has not been read. -/
structure OpenSet where
  isNegated : Bool
  /-- What stands in front of the last operation, and that operation. -/
  left : Option (CharSet × SetOperation) := none
  /-- The items behind it, the last one first. -/
  items : List CharSet := []
  /-- Whether nothing but hyphens has been read. -/
  isFresh : Bool := true

namespace OpenSet

/-- The set with one more item. -/
def add (s : OpenSet) (item : CharSet) : OpenSet :=
  { s with items := item :: s.items, isFresh := false }

/-- The set that the brackets hold so far. -/
def body (s : OpenSet) : CharSet :=
  let operand := CharSet.ofList s.items.reverse
  match s.left with
  | none => operand
  | some (left, operation) => .combined operation left operand

/-- The set behind an operation. -/
def operate (s : OpenSet) (operation : SetOperation) : OpenSet :=
  { s with left := some (s.body, operation), items := [], isFresh := false }

/-- The finished set. -/
def close (s : OpenSet) : CharSet :=
  .bracket s.isNegated s.body

/-- Opens a set whose bracket has been read. -/
def ofText (verbose : Bool) (t : Text) : OpenSet × Text :=
  match skip verbose t with
  | '^' :: rest => ({ isNegated := true }, rest)
  | t => ({ isNegated := false }, t)

end OpenSet

/-! ## Items -/

/-- Reads a named class behind an opening bracket, `:name:]` or `:^name:]`. -/
def readAsciiClass? (t : Text) : Option (CharSet × Text) :=
  let named (isNegated : Bool) (t : Text) : Option (CharSet × Text) :=
    match t.dropWhile (· ≠ ':') with
    | ':' :: ']' :: rest =>
      (asciiClass? (t.takeWhile (· ≠ ':'))).map fun members =>
        (.asciiClass members isNegated, rest)
    | _ => none
  match t with
  | ':' :: '^' :: rest => named true rest
  | ':' :: rest => named false rest
  | _ => none

/-- Reads one character or one escape. -/
def readSetPart? (verbose : Bool) : Text → Option (Escape × Text)
  | [] => none
  | '\\' :: rest => Escape.read? verbose rest
  | c :: rest => some (.literal { char := c }, rest)

/-- The character that decides whether a hyphen makes a range. In a verbose pattern,
blanks and one comment sign are looked through. -/
def decisiveChar? (verbose : Bool) (t : Text) : Option Char :=
  if !verbose then t.head?
  else match Text.trimStart t with
    | '#' :: rest => (Text.trimStart rest).head?
    | t => t.head?

/-- A part as an item of its own. An assertion is none. -/
def itemOf? : Escape → Option CharSet
  | .literal l => some (.literal l)
  | .set set => some set
  | .assertion _ => none

/-- The range between two parts, which must be characters in order. -/
def rangeOf? : Escape → Escape → Option CharSet
  | .literal first, .literal last =>
    if first.char ≤ last.char then some (.range first last) else none
  | _, _ => none

/-- Reads a character, a class or a range. A hyphen in front of a closing bracket or of
another hyphen makes no range. -/
def readSetItem? (verbose : Bool) (t : Text) : Option (CharSet × Text) := do
  let (first, rest) ← readSetPart? verbose t
  match skip verbose rest with
  | '-' :: after =>
    if [some ']', some '-'].contains (decisiveChar? verbose after) then
      return (← itemOf? first, '-' :: after)
    else
      let (last, rest) ← readSetPart? verbose (skip verbose after)
      return (← rangeOf? first last, rest)
  | rest => return (← itemOf? first, rest)

/-! ## Sets -/

/-- What the next step of the reader makes of the open sets. -/
inductive SetStep where
  /-- The outermost set is finished. -/
  | closed (set : CharSet) (rest : Text)
  /-- The innermost open set, those around it, and the text to read. -/
  | opened (s : OpenSet) (outer : List OpenSet) (rest : Text)

/-- Reads the next item, operation or bracket. -/
def setStep? (verbose : Bool) (s : OpenSet) (outer : List OpenSet) (t : Text) :
    Option SetStep :=
  match skip verbose t, s.isFresh, s.items with
  | '-' :: rest, true, items =>
    some (.opened { s with items := .literal { char := '-' } :: items } outer rest)
  | ']' :: rest, true, [] => some (.opened (s.add (.literal { char := ']' })) outer rest)
  | ']' :: rest, _, _ =>
    match outer with
    | [] => some (.closed s.close rest)
    | around :: outer => some (.opened (around.add s.close) outer rest)
  | '[' :: rest, _, _ =>
    match readAsciiClass? rest with
    | some (item, rest) => some (.opened (s.add item) outer rest)
    | none =>
      let (inner, rest) := OpenSet.ofText verbose rest
      some (.opened inner (s :: outer) rest)
  | '&' :: '&' :: rest, _, _ => some (.opened (s.operate .intersection) outer rest)
  | '-' :: '-' :: rest, _, _ => some (.opened (s.operate .difference) outer rest)
  | '~' :: '~' :: rest, _, _ => some (.opened (s.operate .symmetricDifference) outer rest)
  | t, _, _ =>
    (readSetItem? verbose t).map fun (item, rest) => .opened (s.add item) outer rest

/-- Reads up to the end of the outermost open set. Each step has to shorten the text. -/
def readOpenSet? (verbose : Bool) (s : OpenSet) (outer : List OpenSet) (t : Text) :
    Option (CharSet × Text) :=
  match setStep? verbose s outer t with
  | none => none
  | some (.closed set rest) => some (set, rest)
  | some (.opened s outer rest) =>
    if rest.length < t.length then readOpenSet? verbose s outer rest else none
  termination_by t.length

/-- Reads a set whose opening bracket has been read. -/
def CharSet.read? (verbose : Bool) (t : Text) : Option (CharSet × Text) :=
  let (s, rest) := OpenSet.ofText verbose t
  readOpenSet? verbose s [] rest

end Pattern

end InlineChoice
