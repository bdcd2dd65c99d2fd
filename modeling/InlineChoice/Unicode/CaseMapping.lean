import InlineChoice.Text
import InlineChoice.Unicode.BinaryProperty

/-!
# Case

Two mappings of Unicode: the lower case of a text, and the simple case folding of
a character, under which letters that differ in case only are equal.

Lower case is not a map of characters. The capital dotted I becomes two
characters, and a capital sigma becomes the final sigma at the end of a word
(`isFinalSigma`).

Both mappings shift runs of characters by a constant distance, so a table holds
one row a run: the first and the last character, the step between characters, and
the distance. `41-5A+32` shifts A to Z by 32, and `100-12E/2+1` shifts every
second character from U+0100 to U+012E by one.
-/

namespace InlineChoice

namespace Unicode

namespace CaseMapping

/-! ## Rows -/

/-- A run of characters that a mapping shifts by one distance. -/
structure Row where
  first : Nat
  last : Nat
  step : Nat
  distance : Int

namespace Row

/-- Whether the row shifts a code point. -/
def shifts (row : Row) (c : Nat) : Bool :=
  row.first ≤ c && c ≤ row.last && (c - row.first) % row.step = 0

/-- Reads the distance at the end of a row. -/
def distanceOf (t : List Char) : Int :=
  match t with
  | '-' :: digits => -(decimal digits : Int)
  | digits => (decimal digits : Int)
where
  decimal (digits : List Char) : Nat :=
    digits.foldl (fun n c => if c.isDigit then n * 10 + (c.toNat - '0'.toNat) else n) 0

/-- The row that a word spells. -/
def ofText (word : List Char) : Row :=
  let first := word.takeWhile Char.isAlphanum
  let afterFirst := word.drop first.length
  let last := match afterFirst with
    | '-' :: rest => if hasDistance rest then rest.takeWhile Char.isAlphanum else []
    | _ => []
  let afterLast := if last = [] then afterFirst else afterFirst.drop (last.length + 1)
  let (step, signed) := match afterLast with
    | '/' :: _ :: rest => (2, rest)
    | rest => (1, rest)
  { first := hexValue first
    last := if last = [] then hexValue first else hexValue last
    step
    distance := distanceOf signed }
where
  hasDistance (t : List Char) : Bool :=
    t.any fun c => c = '+' || c = '-'

end Row

/-- The rows of a table. -/
def rows (lines : List String) : List Row :=
  (words lines).map Row.ofText

/-- The code point to which a table maps a code point. -/
def shift (table : List Row) (c : Nat) : Nat :=
  match table.find? (·.shifts c) with
  | some row => (c + row.distance).toNat
  | none => c

/-! ## Lower case -/

/-- The lower case of single characters. -/
def lowerTable : List Row :=
  rows
    ["41-5A+32 C0-D6+32 D8-DE+32 100-12E/2+1 132-136/2+1 139-147/2+1 14A-176/2+1 178-121",
     "179-17D/2+1 181+210 182-184/2+1 186+206 187+1 189-18A+205 18B+1 18E+79 18F+202 190+203 191+1",
     "193+205 194+207 196+211 197+209 198+1 19C+211 19D+213 19F+214 1A0-1A4/2+1 1A6+218 1A7+1",
     "1A9+218 1AC+1 1AE+218 1AF+1 1B1-1B2+217 1B3-1B5/2+1 1B7+219 1B8+1 1BC+1 1C4+2 1C5+1 1C7+2",
     "1C8+1 1CA+2 1CB-1DB/2+1 1DE-1EE/2+1 1F1+2 1F2-1F4/2+1 1F6-97 1F7-56 1F8-21E/2+1 220-130",
     "222-232/2+1 23A+10795 23B+1 23D-163 23E+10792 241+1 243-195 244+69 245+71 246-24E/2+1",
     "370-372/2+1 376+1 37F+116 386+38 388-38A+37 38C+64 38E-38F+63 391-3A1+32 3A3-3AB+32 3CF+8",
     "3D8-3EE/2+1 3F4-60 3F7+1 3F9-7 3FA+1 3FD-3FF-130 400-40F+80 410-42F+32 460-480/2+1",
     "48A-4BE/2+1 4C0+15 4C1-4CD/2+1 4D0-52E/2+1 531-556+48 10A0-10C5+7264 10C7+7264 10CD+7264",
     "13A0-13EF+38864 13F0-13F5+8 1C89+1 1C90-1CBA-3008 1CBD-1CBF-3008 1E00-1E94/2+1 1E9E-7615",
     "1EA0-1EFE/2+1 1F08-1F0F-8 1F18-1F1D-8 1F28-1F2F-8 1F38-1F3F-8 1F48-1F4D-8 1F59-1F5F/2-8",
     "1F68-1F6F-8 1F88-1F8F-8 1F98-1F9F-8 1FA8-1FAF-8 1FB8-1FB9-8 1FBA-1FBB-74 1FBC-9 1FC8-1FCB-86",
     "1FCC-9 1FD8-1FD9-8 1FDA-1FDB-100 1FE8-1FE9-8 1FEA-1FEB-112 1FEC-7 1FF8-1FF9-128",
     "1FFA-1FFB-126 1FFC-9 2126-7517 212A-8383 212B-8262 2132+28 2160-216F+16 2183+1 24B6-24CF+26",
     "2C00-2C2F+48 2C60+1 2C62-10743 2C63-3814 2C64-10727 2C67-2C6B/2+1 2C6D-10780 2C6E-10749",
     "2C6F-10783 2C70-10782 2C72+1 2C75+1 2C7E-2C7F-10815 2C80-2CE2/2+1 2CEB-2CED/2+1 2CF2+1",
     "A640-A66C/2+1 A680-A69A/2+1 A722-A72E/2+1 A732-A76E/2+1 A779-A77B/2+1 A77D-35332",
     "A77E-A786/2+1 A78B+1 A78D-42280 A790-A792/2+1 A796-A7A8/2+1 A7AA-42308 A7AB-42319 A7AC-42315",
     "A7AD-42305 A7AE-42308 A7B0-42258 A7B1-42282 A7B2-42261 A7B3+928 A7B4-A7C2/2+1 A7C4-48",
     "A7C5-42307 A7C6-35384 A7C7-A7C9/2+1 A7CB-42343 A7CC-A7DA/2+1 A7DC-42561 A7F5+1 FF21-FF3A+32",
     "10400-10427+40 104B0-104D3+40 10570-10594/2+39 10571-1057A+39 1057D-1058A+39 1058D-10592+39",
     "10595+39 10C80-10CB2+64 10D50-10D65+32 118A0-118BF+32 16E40-16E5F+32 16EA0-16EB8+27",
     "1E900-1E921+34"]

/-- The lower case of a character, apart from the final sigma. -/
def lowerChar (c : Char) : Text :=
  if c = 'İ' then ['i', '\u0307'] else [Char.ofNat (shift lowerTable c.toNat)]

/-- Whether the first character that is not ignored in case mapping is cased. -/
def startsCased (t : Text) : Bool :=
  (t.dropWhile BinaryProperty.caseIgnorable.contains).head?.any BinaryProperty.cased.contains

/-- Whether a capital sigma between two texts ends a word. The text in front of it
is given in reverse. -/
def isFinalSigma (before after : Text) : Bool :=
  startsCased before && !startsCased after

/-- The lower case of a text, after a text that is given in reverse. -/
def lowerAfter (before : Text) : Text → Text
  | [] => []
  | c :: rest =>
    let lower :=
      if c = 'Σ' then (if isFinalSigma before rest then ['ς'] else ['σ']) else lowerChar c
    lower ++ lowerAfter (c :: before) rest

/-- The lower case of a text. -/
def lower (t : Text) : Text :=
  lowerAfter [] t

/-! ## Folding -/

/-- The simple case folding of single characters. -/
def foldTable : List Row :=
  rows
    ["41-5A+32 B5+775 C0-D6+32 D8-DE+32 100-12E/2+1 132-136/2+1 139-147/2+1 14A-176/2+1 178-121",
     "179-17D/2+1 17F-268 181+210 182-184/2+1 186+206 187+1 189-18A+205 18B+1 18E+79 18F+202",
     "190+203 191+1 193+205 194+207 196+211 197+209 198+1 19C+211 19D+213 19F+214 1A0-1A4/2+1",
     "1A6+218 1A7+1 1A9+218 1AC+1 1AE+218 1AF+1 1B1-1B2+217 1B3-1B5/2+1 1B7+219 1B8+1 1BC+1 1C4+2",
     "1C5+1 1C7+2 1C8+1 1CA+2 1CB-1DB/2+1 1DE-1EE/2+1 1F1+2 1F2-1F4/2+1 1F6-97 1F7-56 1F8-21E/2+1",
     "220-130 222-232/2+1 23A+10795 23B+1 23D-163 23E+10792 241+1 243-195 244+69 245+71",
     "246-24E/2+1 345+116 370-372/2+1 376+1 37F+116 386+38 388-38A+37 38C+64 38E-38F+63 391-3A1+32",
     "3A3-3AB+32 3C2+1 3CF+8 3D0-30 3D1-25 3D5-15 3D6-22 3D8-3EE/2+1 3F0-54 3F1-48 3F4-60 3F5-64",
     "3F7+1 3F9-7 3FA+1 3FD-3FF-130 400-40F+80 410-42F+32 460-480/2+1 48A-4BE/2+1 4C0+15",
     "4C1-4CD/2+1 4D0-52E/2+1 531-556+48 10A0-10C5+7264 10C7+7264 10CD+7264 13F8-13FD-8 1C80-6222",
     "1C81-6221 1C82-6212 1C83-1C84-6210 1C85-6211 1C86-6204 1C87-6180 1C88+35267 1C89+1",
     "1C90-1CBA-3008 1CBD-1CBF-3008 1E00-1E94/2+1 1E9B-58 1E9E-7615 1EA0-1EFE/2+1 1F08-1F0F-8",
     "1F18-1F1D-8 1F28-1F2F-8 1F38-1F3F-8 1F48-1F4D-8 1F59-1F5F/2-8 1F68-1F6F-8 1F88-1F8F-8",
     "1F98-1F9F-8 1FA8-1FAF-8 1FB8-1FB9-8 1FBA-1FBB-74 1FBC-9 1FBE-7173 1FC8-1FCB-86 1FCC-9",
     "1FD3-7235 1FD8-1FD9-8 1FDA-1FDB-100 1FE3-7219 1FE8-1FE9-8 1FEA-1FEB-112 1FEC-7 1FF8-1FF9-128",
     "1FFA-1FFB-126 1FFC-9 2126-7517 212A-8383 212B-8262 2132+28 2160-216F+16 2183+1 24B6-24CF+26",
     "2C00-2C2F+48 2C60+1 2C62-10743 2C63-3814 2C64-10727 2C67-2C6B/2+1 2C6D-10780 2C6E-10749",
     "2C6F-10783 2C70-10782 2C72+1 2C75+1 2C7E-2C7F-10815 2C80-2CE2/2+1 2CEB-2CED/2+1 2CF2+1",
     "A640-A66C/2+1 A680-A69A/2+1 A722-A72E/2+1 A732-A76E/2+1 A779-A77B/2+1 A77D-35332",
     "A77E-A786/2+1 A78B+1 A78D-42280 A790-A792/2+1 A796-A7A8/2+1 A7AA-42308 A7AB-42319 A7AC-42315",
     "A7AD-42305 A7AE-42308 A7B0-42258 A7B1-42282 A7B2-42261 A7B3+928 A7B4-A7C2/2+1 A7C4-48",
     "A7C5-42307 A7C6-35384 A7C7-A7C9/2+1 A7CB-42343 A7CC-A7DA/2+1 A7DC-42561 A7F5+1",
     "AB70-ABBF-38864 FB06-1 FF21-FF3A+32 10400-10427+40 104B0-104D3+40 10570-10594/2+39",
     "10571-1057A+39 1057D-1058A+39 1058D-10592+39 10595+39 10C80-10CB2+64 10D50-10D65+32",
     "118A0-118BF+32 16E40-16E5F+32 16EA0-16EB8+27 1E900-1E921+34"]

/-- The simple case folding of a character. -/
def fold (c : Char) : Char :=
  Char.ofNat (shift foldTable c.toNat)

/-- All characters with the same folding. -/
def orbit (c : Char) : List Char :=
  let folded := fold c
  folded :: (foldTable.filterMap fun row =>
    let source := ((folded.toNat : Int) - row.distance).toNat
    if row.shifts source && shift foldTable source = folded.toNat then
      some (Char.ofNat source)
    else none)

end CaseMapping

end Unicode

end InlineChoice
