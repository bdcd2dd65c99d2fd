import InlineChoice.Json.Reader
import InlineChoice.Json.Value
import InlineChoice.Proofs.Text

/-!
# Reading what has been written

A string in quotes is read as itself (`Json.readString_escaped`), whatever characters it is
made of: what must not stand in quotes is escaped, the rest is not, and an escape is read as
the character that it was made for (`Json.readStringFrom_escape`).

An object or an array is written item by item behind its bracket, and read in the same
order. `Json.behindLeft` is the text that a reader has before it at each of these items.
-/

namespace InlineChoice

namespace Json

/-! ## Strings -/

theorem hexDigit?_digitChar : ∀ n < 16, Unicode.hexDigit? (Nat.digitChar n) = some n := by
  decide

/-- Four digits are there if four characters are. -/
theorem startOfDigits_ok (high : Option Nat) (a b c d : Char) (rest : Text) :
    startOfDigits high (a :: b :: c :: d :: rest) = .ok (.digits high 0 0) := by
  have ha := a.utf8Size_pos
  have hb := b.utf8Size_pos
  have hc := c.utf8Size_pos
  have hd := d.utf8Size_pos
  have hsize : ¬ Text.byteSize ((a :: b :: c :: d :: rest).take 4) < 4 := by
    show ¬ (a.utf8Size + (b.utf8Size + (c.utf8Size + (d.utf8Size + 0))) < 4)
    omega
  rw [startOfDigits, if_neg hsize]

/-- The escape with four digits, of which only the last two matter, is read as its
character. -/
theorem readStringFrom_hexPair {c : Char} (h : c.toNat < 0x20) (rest : Text) :
    readStringFrom true .plain (['\\', 'u', '0', '0'] ++ hexPair c.toNat ++ rest) =
      withChar (some c) (readStringFrom true .plain rest) := by
  have hhigh := hexDigit?_digitChar (c.toNat / 16) (by omega)
  have hlow := hexDigit?_digitChar (c.toNat % 16) (by omega)
  have hzero : Unicode.hexDigit? '0' = some 0 := by decide
  have hvalue : c.toNat / 16 * 16 + c.toNat % 16 = c.toNat := by omega
  have hend : endOfDigits true none c.toNat = .ok (some c, .plain) := by
    have hnotLow : isLowSurrogate c.toNat = false := by
      simp [isLowSurrogate]
      omega
    have hnotHigh : isHighSurrogate c.toNat = false := by
      simp [isHighSurrogate]
      omega
    simp [endOfDigits, hnotLow, hnotHigh, Char.ofNat_toNat]
  simp [hexPair, readStringFrom, startOfDigits_ok, hzero, hhigh, hlow, hvalue, hend]

/-- **A character is read as itself**, escaped or not. -/
theorem readStringFrom_escape (c : Char) (rest : Text) :
    readStringFrom true .plain (escape c ++ rest) =
      withChar (some c) (readStringFrom true .plain rest) := by
  rw [escape]
  split_ifs with hquote hslash hback hform hfeed hreturn htab hcontrol
  · subst hquote; rfl
  · subst hslash; rfl
  · subst hback; rfl
  · subst hform; rfl
  · subst hfeed; rfl
  · subst hreturn; rfl
  · subst htab; rfl
  · exact readStringFrom_hexPair hcontrol rest
  · show readStringFrom true .plain (c :: rest) = _
    rw [readStringFrom, if_neg hquote, if_neg hslash, if_neg hcontrol]

/-- **A string is read as itself**, and what follows its closing quote is left. -/
theorem readString_escaped (t rest : Text) :
    readString (t.flatMap escape ++ '"' :: rest) = .ok (t, rest) := by
  rw [readString]
  induction t with
  | nil => rfl
  | cons c t ih =>
      rw [List.flatMap_cons, List.append_assoc, readStringFrom_escape, ih]
      rfl

example : quote "\"\\\n\x01é".toList = "\"\\\"\\\\\\n\\u0001é\"".toList := by decide

/-! ## Layout -/

/-- The text behind an opening bracket, before the next of some items. -/
def behindLeft (right : Char) (level : Nat) : (first : Bool) → List Text → Text
  | true, [] => [right]
  | false, [] => newline level ++ [right]
  | true, item :: items => newline (level + 1) ++ item ++ behindLeft right level false items
  | false, item :: items =>
    ',' :: newline (level + 1) ++ item ++ behindLeft right level false items

/-- What is joined is followed by the closing bracket, item by item. -/
theorem join_append_right (right : Char) (level : Nat) (item : Text) (items : List Text) :
    Text.join (',' :: newline (level + 1)) (item :: items) ++ (newline level ++ [right]) =
      item ++ behindLeft right level false items := by
  rw [Text.join]
  induction items generalizing item with
  | nil => simp [behindLeft]
  | cons next items ih =>
      rw [List.intercalate_cons_cons, List.append_assoc, List.append_assoc, ih next, behindLeft]
      simp

/-- Brackets are written item by item. -/
theorem block_eq (left right : Char) (level : Nat) (items : List Text) :
    block left right level items = left :: behindLeft right level true items := by
  cases items with
  | nil => rfl
  | cons item items =>
      rw [block, if_neg (List.cons_ne_nil item items), behindLeft, List.append_assoc,
        List.append_assoc, join_append_right]
      simp

/-- Each item takes a character or more. -/
theorem length_le_behindLeft (right : Char) (level : Nat) (first : Bool) (items : List Text) :
    items.length ≤ (behindLeft right level first items).length := by
  induction items generalizing first with
  | nil => exact Nat.zero_le _
  | cons item items ih =>
      have hrest := ih false
      cases first <;> simp [behindLeft, newline] <;> omega

/-- A line break and an indentation are passed over. -/
theorem skipBlanks_newline (level : Nat) {c : Char} (hc : isBlank c = false) (rest : Text) :
    skipBlanks (newline level ++ c :: rest) = c :: rest := by
  have hblank : ∀ d ∈ newline level, isBlank d = true := by
    intro d hd
    rcases List.mem_cons.mp hd with rfl | hd
    · decide
    · rw [List.eq_of_mem_replicate hd]
      decide
  rw [skipBlanks, List.dropWhile_append_of_pos hblank, List.dropWhile_cons_of_neg (by simp [hc])]

/-! ## Objects -/

/-- A field of an object as it is written. -/
def memberText (name value : Text) : Text :=
  quote name ++ [':', ' '] ++ value

/-- An object is written member by member. -/
theorem render_object (level : Nat) (fields : List (Text × Json)) :
    render level (.object fields) =
      '\x7b' :: behindLeft '\x7d' level true
        (fields.map fun field => memberText field.1 (render (level + 1) field.2)) := by
  have hfields : renderFields level fields =
      fields.map fun field => memberText field.1 (render (level + 1) field.2) := by
    induction fields with
    | nil => rfl
    | cons field fields ih =>
        rw [List.map_cons, ← ih]
        rfl
  rw [render, block_eq, hfields]

/-- The blanks in front of a member are passed over. -/
theorem skipBlanks_memberText (level : Nat) (name value rest : Text) :
    skipBlanks (newline level ++ (memberText name value ++ rest)) =
      '"' :: (name.flatMap escape ++ '"' :: ':' :: ' ' :: (value ++ rest)) := by
  have hquote : memberText name value ++ rest =
      '"' :: (name.flatMap escape ++ '"' :: ':' :: ' ' :: (value ++ rest)) := by
    simp [memberText, quote]
  rw [hquote]
  exact skipBlanks_newline level (by decide) _

theorem readColon_cons (rest : Text) : readColon (':' :: rest) = .ok rest := by
  rfl

end Json

end InlineChoice
