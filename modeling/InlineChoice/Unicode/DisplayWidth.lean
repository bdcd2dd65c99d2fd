import InlineChoice.Text
import InlineChoice.Unicode.BinaryProperty

/-!
# Display width

The number of terminal columns that a text takes. A single character takes none,
one or two columns (`table`), and characters that melt into one sign take the
columns of that sign: emoji with a variation selector, a skin tone or a joiner,
and the ligatures of some scripts.

Whether a character melts depends on what follows it, so a text is measured from
its end: each step takes one more character in front of a `Following` and says by
how many columns the sum changes. The change is negative where a sign turns out
to be a part that has no column of its own.
-/

namespace InlineChoice

namespace Unicode

namespace DisplayWidth

/-! ## Single characters -/

/-- The columns of single characters. -/
def table : RunTable :=
  RunTable.ofLines
    ["AD:1 0 252:1 70:0 113:1 7:0 107:1 2D:0 1 0 1 2:0 1 2:0 1 0 3D:1 0 A:1 B:0 1 0 2E:1 15:0 10:1",
     "0 65:1 7:0 2:1 6:0 2:1 2:0 1 4:0 21:1 0 1 0 1E:1 1B:0 5B:1 B:0 3A:1 9:0 9:1 0 18:1 4:0 1 9:0",
     "1 3:0 1 5:0 2B:1 3:0 34:1 2:0 5:1 9:0 2A:1 39:0 37:1 0 1 0 4:1 8:0 4:1 0 3:1 7:0 A:1 2:0",
     "1D:1 0 3A:1 0 1 0 2:1 4:0 8:1 0 9:1 0 A:1 2:0 1A:1 0 2:1 2:0 39:1 0 4:1 2:0 4:1 2:0 2:1 3:0",
     "3:1 0 1E:1 2:0 3:1 0 B:1 2:0 39:1 0 4:1 5:0 1 2:0 4:1 0 14:1 2:0 16:1 6:0 1 0 3A:1 0 1 2:0 1",
     "4:0 8:1 0 7:1 3:0 A:1 2:0 1E:1 0 3B:1 0 1 0 C:1 0 9:1 0 28:1 0 3:1 0 37:1 0 1 3:0 5:1 3:0 1",
     "4:0 7:1 2:0 B:1 2:0 1D:1 0 3A:1 0 2:1 2:0 1 0 3:1 3:0 1 4:0 7:1 2:0 B:1 2:0 1C:1 2:0 39:1",
     "2:0 1 0 2:1 4:0 8:1 2:0 8:1 0 A:1 2:0 1D:1 0 48:1 0 4:1 0 2:1 3:0 1 0 8:1 0 51:1 0 2:1 7:0",
     "C:1 8:0 62:1 0 2:1 9:0 B:1 7:0 49:1 2:0 1B:1 0 1 0 1 0 37:1 E:0 1 5:0 1 2:0 5:1 B:0 1 24:0",
     "9:1 0 66:1 4:0 1 6:0 1 2:0 2:1 2:0 19:1 2:0 4:1 3:0 10:1 4:0 D:1 0 2:1 2:0 6:1 0 F:1 0 62:1",
     "60:2 A0:0 15D:1 3:0 3B2:1 4:0 1C:1 3:0 1D:1 2:0 1E:1 2:0 30:1 2 F:1 2:0 1 7:0 8:1 0 2:1 B:0",
     "4:1 3 4:1 0 2D:1 5:0 75:1 2:0 22:1 0 76:1 3:0 4:1 2:0 9:1 0 6:1 3:0 DB:1 2:0 2:1 0 3A:1 0 1",
     "7:0 1 0 1 0 2:1 8:0 6:1 A:0 2:1 0 30:1 2E:0 2:1 C:0 14:1 4:0 30:1 A:0 4:1 3:0 26:1 9:0 C:1",
     "2:0 20:1 4:0 2:1 6:0 38:1 0 1 2:0 3:1 0 1 5:0 38:1 8:0 2:1 2:0 98:1 3:0 1 D:0 1 7:0 4:1 0",
     "6:1 0 3:1 2:0 C6:1 40:0 20B:1 5:0 1A:1 5:0 31:1 10:0 60:1 21:0 229:1 2:2 D:1 2:2 BE:1 4:2",
     "3:1 2 2:1 2 209:1 2:2 15:1 2:2 1A:1 8:2 10:1 C:2 2B:1 2 A:1 6:2 3:1 2 D:1 2 8:1 2:2 11:1 2:2",
     "5:1 2:2 8:1 2 5:1 2 15:1 2 7:1 2:2 1 2 4:1 2 2:1 2 7:1 2 4:1 2:2 1C:1 2 23:1 2 1 2 4:1 3:2 1",
     "2 3D:1 3:2 18:1 2 E:1 2 35B:1 2:2 33:1 2 4:1 2 199:1 3:0 EE:1 20:0 80:1 1A:2 1 59:2 C:1 D6:2",
     "1A:1 3A:2 6:0 F:2 2:1 56:2 2:1 2:0 65:2 5:1 2B:2 1 33:2 0 2A:2 1 56:2 9:1 30:2 1 28:2 8:1",
     "723D:2 3:1 37:2 1A8:1 4:0 1 A:0 20:1 2:0 50:1 2:0 110:1 0 3:1 0 4:1 0 19:1 2:0 5:1 0 97:1",
     "2:0 1A:1 12:0 8:1 0 4:1 0 26:1 8:0 19:1 B:0 1 0 C:1 1D:2 3:1 3:0 30:1 0 2:1 4:0 2:1 2:0 2:1",
     "0 24:1 0 43:1 6:0 2:1 2:0 2:1 2:0 C:1 0 8:1 0 2F:1 0 33:1 0 1 3:0 2:1 2:0 5:1 2:0 1 0 2A:1",
     "2:0 8:1 0 EE:1 0 2:1 0 4:1 0 12:1 2BA4:2 C:1 17:0 4:1 31:0 2104:1 200:2 1E:1 0 2E1:1 10:0",
     "A:2 6:1 10:0 23:2 1 13:2 1 4:2 93:1 0 1 60:2 3D:1 3:0 3F:1 7:2 9:1 9:0 204:1 0 E2:1 0 95:1",
     "5:0 686:1 3:0 1 2:0 5:1 4:0 28:1 3:0 4:1 0 A5:1 2:0 23D:1 4:0 41:1 5:0 13D:1 2:0 4D:1 6:0",
     "46:1 B:0 31:1 4:0 7B:1 0 36:1 F:0 29:1 0 2:1 2:0 A:1 3:0 31:1 4:0 2:1 2:0 7:1 0 3D:1 3:0",
     "24:1 5:0 1 8:0 3E:1 0 C:1 2:0 34:1 9:0 1 0 1 2:0 5:1 4:0 2:1 0 5F:1 3:0 2:1 4:0 6:1 0 2:1 0",
     "9D:1 0 3:1 8:0 15:1 2:0 39:1 2:0 1 0 1 0 C:1 0 9:1 0 E:1 7:0 3:1 5:0 43:1 0 2:1 6:0 1 0 2:1",
     "0 1 3:0 4:1 5:0 E:1 2:0 55:1 8:0 2:1 3:0 1 0 17:1 0 51:1 0 2:1 6:0 1 0 2:1 0 1 2:0 1 2:0",
     "EB:1 0 2:1 4:0 6:1 2:0 1 2:0 1B:1 2:0 55:1 8:0 2:1 0 1 2:0 6A:1 0 1 0 2:1 8:0 65:1 0 1 0 2:1",
     "4:0 1 5:0 103:1 9:0 1 2:0 F5:1 0 A:1 5:0 1 0 1 0 90:1 4:0 2:1 2:0 4:1 0 20:1 A:0 28:1 6:0 1",
     "5:0 8:1 0 9:1 6:0 2:1 3:0 28:1 13:0 1 2:0 C6:1 0 1 3:0 1 0 C9:1 7:0 1 6:0 1 0 52:1 16:0 2:1",
     "7:0 1 2:0 1 2:0 7A:1 6:0 3:1 0 1 2:0 1 9:0 48:1 2:0 3:1 0 1 0 15B:1 2:0 B:1 3:0 33:1 5:0 5:1",
     "3:0 17:1 0 14E5:1 0 6:1 F:0 2CC8:1 C:0 3:1 3:0 9C0:1 5:0 3B:1 7:0 418:1 0 3F:1 4:0 4D:1 4:2",
     "0 B:1 2:0 5:2 9:1 1CD6:2 29:1 20:2 61:1 73:2 21FD:1 4:2 1 7:2 1 2:2 1 123:2 F:1 2 1D:1 3:2",
     "2:1 2 E:1 4:2 8:1 18C:2 9A1:1 2:0 1 4:0 125C:1 2E:0 2:1 17:0 21E:1 5:0 3:1 16:0 2:1 7:0 1E:1",
     "4:0 94:1 3:0 BB:1 57:2 9:1 17:2 689:1 37:0 4:1 32:0 8:1 0 E:1 0 16:1 5:0 1 F:0 550:1 7:0 1",
     "11:0 2:1 7:0 1 2:0 1 5:0 64:1 0 A0:1 7:0 177:1 0 3D:1 4:0 1FC:1 4:0 FE:1 2:0 F3:1 0 2:1 0",
     "7:1 2:0 5:1 0 1DA:1 7:0 6D:1 7:0 6B9:1 2 CA:1 2 BE:1 2 2:1 A:2 65:1 3:2 D:1 2C:2 4:1 9:2 7:1",
     "2:2 E:1 6:2 9A:1 21:2 C:1 9:2 1 46:2 1 16:2 C:1 2B:2 4:1 5:2 C:1 11:2 3:1 2 3:1 47:2 1 2 1",
     "BB:2 2:1 3F:2 D:1 4:2 1 18:2 12:1 2 1A:1 2:2 D:1 2 56:1 55:2 30:1 46:2 6:1 2 3:1 3:2 2:1 4:2",
     "3:1 4:2 B:1 2:2 7:1 9:2 E3:1 C:2 4:1 2 11B:1 2F:2 1 A:2 1 B9:2 70:1 D:2 3:1 B:2 3:1 39:2 1 2",
     "4:1 10:2 2:1 C:2 4:1 A:2 507:1 FFFE:2 2:1 FFFE:2 A0002:1 1000:0 2F000:1"]

/-- The columns of a character on its own. -/
def charWidth (c : Char) : Nat :=
  (hexDigit? ((table.value c).toList.headD '1')).getD 1

/-- Emoji of two columns that a text selector makes a sign of one column. -/
def textSequenceStarts : List Nat :=
  [0x231A, 0x231B, 0x23E9, 0x23EA, 0x23F3, 0x25FD, 0x25FE, 0x2614, 0x2615, 0x2648, 0x2649,
   0x264A, 0x264B, 0x264C, 0x264D, 0x264E, 0x264F, 0x2650, 0x2651, 0x2652, 0x2653, 0x267F,
   0x2693, 0x26A1, 0x26AA, 0x26AB, 0x26BD, 0x26BE, 0x26C4, 0x26C5, 0x26D4, 0x26EA, 0x26F2,
   0x26F3, 0x26F5, 0x26FA, 0x26FD, 0x2753, 0x2757, 0x2B1B, 0x2B1C, 0x2B50, 0x2B55, 0x1F004,
   0x1F30D, 0x1F30E, 0x1F30F, 0x1F315, 0x1F31C, 0x1F378, 0x1F393, 0x1F3A7, 0x1F3AC, 0x1F3AD,
   0x1F3AE, 0x1F3C2, 0x1F3C4, 0x1F3C6, 0x1F3CA, 0x1F3E0, 0x1F3ED, 0x1F408, 0x1F415, 0x1F41F,
   0x1F426, 0x1F442, 0x1F446, 0x1F447, 0x1F448, 0x1F449, 0x1F44D, 0x1F44E, 0x1F453, 0x1F46A,
   0x1F47D, 0x1F4A3, 0x1F4B0, 0x1F4B3, 0x1F4BB, 0x1F4BF, 0x1F4CB, 0x1F4DA, 0x1F4DF, 0x1F4E4,
   0x1F4E5, 0x1F4E6, 0x1F4EA, 0x1F4EB, 0x1F4EC, 0x1F4ED, 0x1F4F7, 0x1F4F9, 0x1F4FA, 0x1F4FB,
   0x1F508, 0x1F50D, 0x1F512, 0x1F513, 0x1F550, 0x1F551, 0x1F552, 0x1F553, 0x1F554, 0x1F555,
   0x1F556, 0x1F557, 0x1F558, 0x1F559, 0x1F55A, 0x1F55B, 0x1F55C, 0x1F55D, 0x1F55E, 0x1F55F,
   0x1F560, 0x1F561, 0x1F562, 0x1F563, 0x1F564, 0x1F565, 0x1F566, 0x1F567, 0x1F610, 0x1F687,
   0x1F68D, 0x1F691, 0x1F694, 0x1F698, 0x1F6AD, 0x1F6B2, 0x1F6B9, 0x1F6BA, 0x1F6BC]

/-- Whether a code point lies in one of some closed ranges. -/
def within (ranges : List (Nat × Nat)) (c : Char) : Bool :=
  ranges.any fun (low, high) => low ≤ c.toNat && c.toNat ≤ high

/-- The letters of regional flags. -/
def isFlagLetter : Char → Bool := within [(0x1F1E6, 0x1F1FF)]

/-- The skin tones. -/
def isSkinTone : Char → Bool := within [(0x1F3FB, 0x1F3FF)]

/-- Whether an emoji selector makes a character an emoji of two columns. -/
def startsEmojiSequence (c : Char) : Bool :=
  BinaryProperty.emoji.contains c && !isFlagLetter c && !isSkinTone c

/-- Whether a text selector makes an emoji a sign of one column. -/
def startsTextSequence (c : Char) : Bool :=
  textSequenceStarts.contains c.toNat

/-- The combining characters that no ligature is disturbed by. -/
def isLigatureTransparent : Char → Bool :=
  within [(0x34F, 0x34F), (0x17B4, 0x17B5), (0x180B, 0x180D), (0x180F, 0x180F),
    (0xFE00, 0xFE0F), (0xE0100, 0xE01EF)]

/-- The marks that do not break the joining of Arabic letters. -/
def isJoiningTransparent (c : Char) : Bool :=
  charWidth c = 0 &&
    !within [(0x605, 0x605), (0x70F, 0x70F), (0x890, 0x891), (0x8E2, 0x8E2), (0x1160, 0x11FF),
      (0x180E, 0x180E), (0x200C, 0x200D), (0x3164, 0x3164), (0xD7B0, 0xD7FB),
      (0xFFA0, 0xFFA0)] c

/-- The Arabic letters of the group of Lam. -/
def isLam : Char → Bool :=
  within [(0x644, 0x644), (0x6B5, 0x6B8), (0x76A, 0x76A), (0x8A6, 0x8A6), (0x8C7, 0x8C7)]

/-- The Arabic letters of the group of Alef. -/
def isAlef : Char → Bool :=
  within [(0x622, 0x623), (0x625, 0x625), (0x627, 0x627), (0x671, 0x673), (0x675, 0x675),
    (0x773, 0x774), (0x870, 0x882)]

/-- The Khmer letters that a coeng sign turns into a subscript. -/
def isCoengLetter : Char → Bool :=
  within [(0x1780, 0x1782), (0x1784, 0x1787), (0x1789, 0x178C), (0x178E, 0x1793),
    (0x1795, 0x1798), (0x179B, 0x179D), (0x17A0, 0x17A0), (0x17A2, 0x17A2), (0x17A7, 0x17A7),
    (0x17AB, 0x17AC), (0x17AF, 0x17AF)]

/-- The Tifinagh consonants. -/
def isTifinaghConsonant : Char → Bool := within [(0x2D31, 0x2D65), (0x2D6F, 0x2D6F)]

/-! ## What follows a character -/

/-- The last letter of a ligature, as far as it has been read from the end. -/
inductive Ligature where
  | alef
  | lamed
  | buginese
  | bugineseVowel
  | coeng
  | tifinagh
  | tifinaghJoiner
  | lisuTone
  | orkhon
  deriving DecidableEq

/-- A sign that may melt with the character in front of it. -/
inductive Sign where
  | none
  | lineFeed
  | skinTone
  /-- A letter of a regional flag, and whether another one follows. -/
  | flagLetter (paired : Bool)
  | emoji
  /-- A joiner in front of an emoji. -/
  | joinedEmoji
  /-- The joined frame of a keycap. -/
  | joinedKeycap
  /-- Joined letters of regional flags, and whether their number is even. -/
  | joinedFlag (even : Bool)
  /-- A ligature, and whether a joiner stands in front of it. -/
  | ligature (kind : Ligature) (joined : Bool)
  | kiratVowel
  | kiratVowelPair
  deriving DecidableEq

/-- The variation selectors that choose between text and emoji. -/
inductive Selector where
  | text
  | emoji
  deriving DecidableEq

/-- What stands right after a character. -/
structure Following where
  sign : Sign
  /-- A variation selector in front of the sign. -/
  selector : Option Selector
  deriving DecidableEq

namespace Following

/-- Nothing that a character could melt with. -/
def nothing : Following := ⟨.none, none⟩

/-- The given sign. -/
def ofSign (sign : Sign) : Following := ⟨sign, none⟩

/-- The given end of a ligature. -/
def ofLigature (kind : Ligature) : Following := ⟨.ligature kind false, none⟩

/-- A selector in front of what follows; it separates all but ligatures and what
is joined to an emoji sequence. -/
def select (f : Following) (selector : Selector) : Following :=
  match f.sign, selector with
  | .ligature _ _, _ | .joinedEmoji, .emoji | .joinedKeycap, .emoji => ⟨f.sign, some selector⟩
  | _, _ => ⟨.none, some selector⟩

/-- What follows once a selector has found no character to act on. -/
def unselect (f : Following) : Following :=
  match f.sign with
  | .ligature _ _ => ⟨f.sign, none⟩
  | _ => nothing

end Following

/-! ## One character more -/

/-- The columns of a character that melts with nothing, and what it is for the
character in front of it. -/
def alone (c : Char) : Int × Following :=
  let following :=
    if c = '\uFE0F' then ⟨.none, some .emoji⟩
    else if c = '\uFE0E' then ⟨.none, some .text⟩
    else if isFlagLetter c then .ofSign (.flagLetter false)
    else if isSkinTone c then .ofSign .skinTone
    else if BinaryProperty.emojiPresentation.contains c then .ofSign .emoji
    else if isAlef c then .ofLigature .alef
    else if c = '\u05DC' then .ofLigature .lamed
    else if c = '\u1A10' then .ofLigature .buginese
    else if isCoengLetter c then .ofLigature .coeng
    else if isTifinaghConsonant c then .ofLigature .tifinagh
    else if c = '\uA4FC' || c = '\uA4FD' then .ofLigature .lisuTone
    else if c.toNat = 0x10C03 then .ofLigature .orkhon
    else if c.toNat = 0x16D67 then .ofSign .kiratVowel
    else if c.toNat = 0x16D68 then .ofSign .kiratVowelPair
    else .nothing
  (charWidth c, following)

/-- The change of the columns where a character melts with the sign after it, and
what both are for the character in front of them. -/
def melted? (c : Char) : Sign → Option (Int × Following)
  | .ligature .alef joined =>
    if isLam c then some (0, .nothing)
    else if isJoiningTransparent c then some (0, ⟨.ligature .alef joined, none⟩)
    else none
  | .ligature .lamed true => if c = '\u05D0' then some (0, .nothing) else none
  | .ligature .coeng _ => if c = '\u17D2' then some (-1, .nothing) else none
  | .ligature .buginese true =>
    if c = '\u1A17' then some (0, .ofLigature .bugineseVowel) else none
  | .ligature .bugineseVowel _ => if c = '\u1A15' then some (0, .nothing) else none
  | .ligature .tifinagh joined =>
    if c = '\u2D7F' then some (1, .ofLigature .tifinaghJoiner)
    else if joined && isTifinaghConsonant c then some (0, .nothing)
    else none
  | .ligature .tifinaghJoiner _ => if isTifinaghConsonant c then some (-1, .nothing) else none
  | .ligature .lisuTone _ => if within [(0xA4F8, 0xA4FB)] c then some (0, .nothing) else none
  | .ligature .orkhon true => if c.toNat = 0x10C32 then some (0, .nothing) else none
  | .skinTone =>
    if BinaryProperty.emojiModifierBase.contains c then some (0, .ofSign .emoji) else none
  | .flagLetter paired =>
    if isFlagLetter c then some (1, .ofSign (.flagLetter true))
    else if paired && c = '\u200D' then some (0, .ofSign .joinedEmoji)
    else none
  | .emoji => if c = '\u200D' then some (0, .ofSign .joinedEmoji) else none
  | .joinedEmoji =>
    if c = '\u20E3' then some (0, .ofSign .joinedKeycap)
    else if isFlagLetter c then some (1, .ofSign (.joinedFlag false))
    else if isSkinTone c then some (0, .ofSign .skinTone)
    else if BinaryProperty.emojiPresentation.contains c then some (0, .ofSign .emoji)
    else none
  | .joinedFlag even =>
    if isFlagLetter c then some (if even then 3 else -1, .ofSign (.joinedFlag !even))
    else if even && c = '\u200D' then some (0, .ofSign .joinedEmoji)
    else none
  | .kiratVowel =>
    if c.toNat = 0x16D63 || c.toNat = 0x16D69 then some (0, .nothing)
    else if c.toNat = 0x16D67 then some (0, .ofSign .kiratVowelPair)
    else if c.toNat = 0x16D68 then some (1, .ofSign .kiratVowel)
    else none
  | .kiratVowelPair => if c.toNat = 0x16D63 then some (0, .nothing) else none
  | _ => none

/-- The change of the columns by a character above U+00A0 in front of a sign that
no emoji selector separates from it. -/
def beyondLatin (c : Char) (f : Following) : Int × Following :=
  if f = .nothing then alone c
  else if c = '\uFE0F' then (0, f.select .emoji)
  else if c = '\uFE0E' then (0, f.select .text)
  else if f.selector = some .text && startsTextSequence c then (1, .nothing)
  else
    let f := if f.selector = some .text then f.unselect else f
    match f.sign with
    | .ligature kind joined =>
      if c = '\u200D' then (0, ⟨.ligature kind true, none⟩)
      else if isLigatureTransparent c then (0, ⟨.ligature kind joined, none⟩)
      else (melted? c f.sign).getD (alone c)
    | sign => (melted? c sign).getD (alone c)

/-- The change of the columns by a character in front of what follows it. -/
def step (c : Char) (f : Following) : Int × Following :=
  if f.selector = some .emoji && startsEmojiSequence c then
    let melts := f.sign = .joinedEmoji || f.sign = .joinedKeycap
    (if melts then 0 else 2, .ofSign .emoji)
  else
    let f := if f.selector = some .emoji then f.unselect else f
    if c.toNat ≤ 0xA0 then
      if c = '\n' then (1, .ofSign .lineFeed)
      else if c = '\r' && f.sign = .lineFeed then (0, .nothing)
      else (1, .nothing)
    else beyondLatin c f

/-- The columns of a text, and what it is for a character in front of it. -/
def measure (t : Text) : Int × Following :=
  t.foldr (fun c (sum, f) => (sum + (step c f).1, (step c f).2)) (0, .nothing)

end DisplayWidth

/-- The number of terminal columns that a text takes. -/
def displayWidth (t : Text) : Nat :=
  (DisplayWidth.measure t).1.toNat

end Unicode

end InlineChoice
