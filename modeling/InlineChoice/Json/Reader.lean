import InlineChoice.Unicode.Runs
import InlineChoice.Text

/-!
# Reading JSON

Readers take a value off the front of a text and leave the rest. They say why a
text cannot be read (`Json.Fault`): it ends too soon, it is not JSON, or it is
JSON of another type than the one asked for.

The first fault in the order of the text decides. A value of the wrong type is
therefore read far enough to see that it is a value at all (`Fault.ofUnexpected`),
and a value that is passed over (`skipValue`) is checked for its form only: its
strings may hold unpaired surrogates and its numbers may be of any size.
-/

namespace InlineChoice

namespace Json

/-- Why a text cannot be read. -/
inductive Fault where
  /-- The text ends inside a value. -/
  | unfinished
  /-- The text is not JSON, or something follows the value. -/
  | malformed
  /-- A value has the wrong type, or a field occurs twice. -/
  | mismatched
  deriving DecidableEq, Repr

/-- The name of a fault in messages. -/
def Fault.name : Fault → Text
  | unfinished => "json:eof".toList
  | malformed => "json:syntax".toList
  | mismatched => "json:data".toList

/-- The result of reading a value off the front of a text. -/
abbrev Reading (α : Type) := Except Fault (α × Text)

/-! ## Blanks and punctuation -/

/-- The white space of JSON. -/
def isBlank (c : Char) : Bool :=
  c = ' ' || c = '\n' || c = '\t' || c = '\r'

/-- A text without the white space at its front. -/
def skipBlanks (t : Text) : Text :=
  t.dropWhile isBlank

/-- The text after the colon behind a name. -/
def readColon (t : Text) : Except Fault Text :=
  match skipBlanks t with
  | [] => .error .unfinished
  | ':' :: rest => .ok rest
  | _ => .error .malformed

/-- The text after the given letters. -/
def readWord : Text → Text → Except Fault Text
  | [], t => .ok t
  | _ :: _, [] => .error .unfinished
  | w :: ws, c :: rest => if c = w then readWord ws rest else .error .malformed

/-! ## Strings -/

/-- Where the reader stands in a string. A code unit above the basic plane is
written as two escapes, a high surrogate and a low one. -/
inductive StringState where
  | plain
  /-- After a backslash. -/
  | escaped
  /-- Among the four digits of an escape, with the high surrogate before it. -/
  | digits (high : Option Nat) (value count : Nat)
  /-- After a high surrogate. -/
  | high (value : Nat)
  /-- After a high surrogate and a backslash. -/
  | highEscaped (value : Nat)

/-- The character that a letter after a backslash stands for. -/
def unescape? : Char → Option Char
  | '"' => some '"'
  | '\\' => some '\\'
  | '/' => some '/'
  | 'b' => some '\x08'
  | 'f' => some '\x0C'
  | 'n' => some '\n'
  | 'r' => some '\r'
  | 't' => some '\t'
  | _ => none

/-- Whether a code unit is a high surrogate. -/
def isHighSurrogate (unit : Nat) : Bool := 0xD800 ≤ unit && unit < 0xDC00

/-- Whether a code unit is a low surrogate. -/
def isLowSurrogate (unit : Nat) : Bool := 0xDC00 ≤ unit && unit < 0xE000

/-- What four digits after an earlier high surrogate spell: a character, or the
state that awaits the low surrogate. A string that is passed over may hold any
surrogates. -/
def endOfDigits (strict : Bool) (high : Option Nat) (unit : Nat) :
    Except Fault (Option Char × StringState) :=
  if !strict then .ok (none, .plain)
  else match high with
    | none =>
      if isLowSurrogate unit then .error .malformed
      else if isHighSurrogate unit then .ok (none, .high unit)
      else .ok (some (Char.ofNat unit), .plain)
    | some h =>
      if isLowSurrogate unit then
        .ok (some (Char.ofNat (0x10000 + (h - 0xD800) * 0x400 + (unit - 0xDC00))), .plain)
      else .error .malformed

/-- The state after the letter `u` of an escape. The digits are missing where the
text ends before four more bytes. -/
def startOfDigits (high : Option Nat) (rest : Text) : Except Fault StringState :=
  if Text.byteSize (rest.take 4) < 4 then .error .unfinished else .ok (.digits high 0 0)

/-- Puts a character in front of a string that has been read. -/
def withChar (c : Option Char) : Reading Text → Reading Text
  | .ok (t, rest) => .ok (c.toList ++ t, rest)
  | .error fault => .error fault

/-- The rest of a string up to its closing quote, from a state. -/
def readStringFrom (strict : Bool) : StringState → Text → Reading Text
  | _, [] => .error .unfinished
  | .plain, c :: rest =>
    if c = '"' then .ok ([], rest)
    else if c = '\\' then readStringFrom strict .escaped rest
    else if c.toNat < 0x20 then .error .malformed
    else withChar (some c) (readStringFrom strict .plain rest)
  | .escaped, c :: rest =>
    if c = 'u' then
      match startOfDigits none rest with
      | .ok state => readStringFrom strict state rest
      | .error fault => .error fault
    else match unescape? c with
      | some plain => withChar (some plain) (readStringFrom strict .plain rest)
      | none => .error .malformed
  | .digits high value count, c :: rest =>
    match Unicode.hexDigit? c with
    | none => .error .malformed
    | some digit =>
      if count < 3 then readStringFrom strict (.digits high (value * 16 + digit) (count + 1)) rest
      else match endOfDigits strict high (value * 16 + digit) with
        | .ok (read, state) => withChar read (readStringFrom strict state rest)
        | .error fault => .error fault
  | .high value, c :: rest =>
    if c = '\\' then readStringFrom strict (.highEscaped value) rest else .error .malformed
  | .highEscaped value, c :: rest =>
    if c = 'u' then
      match startOfDigits (some value) rest with
      | .ok state => readStringFrom strict state rest
      | .error fault => .error fault
    else .error .malformed

/-- The string whose opening quote has been read. -/
def readString (t : Text) : Reading Text :=
  readStringFrom true .plain t

/-! ## Numbers -/

/-- The size of a number: `digits * 10 ^ exponent`. -/
structure Magnitude where
  digits : Nat
  exponent : Int

/-- The magnitude from which on a number is beyond binary floating point of 64
bits: half a step above the greatest finite value. -/
def hugeFrom : Nat := Nat.pow 2 1024 - Nat.pow 2 970

/-- Whether a number is too large for binary floating point of 64 bits. -/
def Magnitude.isHuge (m : Magnitude) : Bool :=
  let size : Int := (Nat.toDigits 10 m.digits).length + m.exponent
  if m.digits = 0 || size < 300 then false
  else if 400 < size then true
  else if 0 ≤ m.exponent then hugeFrom ≤ m.digits * Nat.pow 10 m.exponent.toNat
  else hugeFrom * Nat.pow 10 (-m.exponent).toNat ≤ m.digits

/-- The number that decimal digits spell. -/
def decimalValue (digits : Text) : Nat :=
  digits.foldl (fun n c => n * 10 + (c.toNat - '0'.toNat)) 0

/-- One or more decimal digits. -/
def readDigits (atEnd : Fault) (t : Text) : Reading Text :=
  match t with
  | [] => .error atEnd
  | c :: _ => if c.isDigit then .ok (t.span Char.isDigit) else .error .malformed

/-- The exponent of a number, if it has one. -/
def readExponent (atEnd : Fault) (t : Text) : Reading Int :=
  match t with
  | c :: rest =>
    if c = 'e' || c = 'E' then
      let negative := rest.head? = some '-'
      let unsigned := if negative || rest.head? = some '+' then rest.drop 1 else rest
      match readDigits atEnd unsigned with
      | .ok (digits, rest) =>
        .ok (if negative then -(decimalValue digits : Int) else decimalValue digits, rest)
      | .error fault => .error fault
    else .ok (0, t)
  | [] => .ok (0, t)

/-- The fraction of a number, if it has one. -/
def readFraction (atEnd : Fault) (t : Text) : Reading Text :=
  match t with
  | '.' :: rest => readDigits atEnd rest
  | _ => .ok ([], t)

/-- A number; `atEnd` is the fault where the text ends inside it. -/
def readNumber (atEnd : Fault) (t : Text) : Except Fault (Magnitude × Text) := do
  let unsigned := if t.head? = some '-' then t.drop 1 else t
  let (whole, rest) ← readDigits atEnd unsigned
  if 1 < whole.length && whole.head? = some '0' then throw .malformed
  let (fraction, rest) ← readFraction atEnd rest
  let (exponent, rest) ← readExponent atEnd rest
  pure (⟨decimalValue (whole ++ fraction), exponent - fraction.length⟩, rest)

/-! ## Values of the wrong type -/

/-- The fault at a value of the wrong type. -/
def Fault.ofUnexpected (t : Text) : Fault :=
  let after {α : Type} : Except Fault α → Fault
    | .ok _ => .mismatched
    | .error fault => fault
  match t with
  | [] => .unfinished
  | 'n' :: rest => after (readWord "ull".toList rest)
  | 't' :: rest => after (readWord "rue".toList rest)
  | 'f' :: rest => after (readWord "alse".toList rest)
  | '"' :: rest => after (readString rest)
  | '[' :: _ => .mismatched
  | '\x7b' :: _ => .mismatched
  | c :: _ =>
    if c = '-' || c.isDigit then
      match readNumber .unfinished t with
      | .ok (m, _) => if m.isHuge then .malformed else .mismatched
      | .error fault => fault
    else .malformed

/-! ## Passing over a value -/

/-- An open bracket around the value that is passed over. -/
inductive Frame where
  | array
  | object
  deriving DecidableEq

/-- The text after a value inside the given brackets, the innermost first; with
`valueNext`, the text starts with a value, else one has just ended. Each round
takes a character or more off the text, so its length is fuel enough. -/
def skipFrom : (fuel : Nat) → List Frame → (valueNext : Bool) → Text → Except Fault Text
  | 0, _, _, _ => .error .unfinished
  | _ + 1, [], false, t => .ok t
  | fuel + 1, frame :: frames, false, t =>
    match frame, skipBlanks t with
    | _, [] => .error .unfinished
    | .array, ',' :: rest => skipFrom fuel (.array :: frames) true rest
    | .array, ']' :: rest => skipFrom fuel frames false rest
    | .object, ',' :: rest => skipName fuel frames (skipBlanks rest)
    | .object, '\x7d' :: rest => skipFrom fuel frames false rest
    | _, _ => .error .malformed
  | fuel + 1, frames, true, t =>
    let after (rest : Except Fault Text) : Except Fault Text := do
      skipFrom fuel frames false (← rest)
    match skipBlanks t with
    | [] => .error .unfinished
    | 'n' :: rest => after (readWord "ull".toList rest)
    | 't' :: rest => after (readWord "rue".toList rest)
    | 'f' :: rest => after (readWord "alse".toList rest)
    | '"' :: rest => after ((readStringFrom false .plain rest).map (·.2))
    | '[' :: rest =>
      match skipBlanks rest with
      | ']' :: rest => after (.ok rest)
      | rest => skipFrom fuel (.array :: frames) true rest
    | '\x7b' :: rest =>
      match skipBlanks rest with
      | '\x7d' :: rest => after (.ok rest)
      | rest => skipName fuel frames rest
    | c :: rest =>
      if c = '-' || c.isDigit then after ((readNumber .malformed (c :: rest)).map (·.2))
      else .error .malformed
where
  /-- Passes over a name and the value behind it. -/
  skipName (fuel : Nat) (frames : List Frame) : Text → Except Fault Text
    | [] => .error .unfinished
    | '"' :: rest => do
      let (_, rest) ← readStringFrom false .plain rest
      skipFrom fuel (.object :: frames) true (← readColon rest)
    | _ => .error .malformed

/-- The text after the value at the front of a text. -/
def skipValue (t : Text) : Except Fault Text :=
  skipFrom (t.length + 1) [] true t

end Json

end InlineChoice
