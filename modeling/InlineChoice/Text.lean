/-!
# Text

A text is the list of its code points. Everything below the command line works
on texts, because each law about a line is a law about how a list splits.

Offsets that leave the library are counted in bytes of the UTF-8 encoding.
That measure is derived (`byteSize`), never stored beside the characters, and a
cut at a byte offset (`dropBytes?`) succeeds exactly at the boundary of a
character.

White space is the Unicode property `White_Space` (`isBlank`); it includes the
line feed, and it excludes the zero-width space and the four information
separators.
-/

namespace InlineChoice

/-- A text, as its code points in order. -/
abbrev Text := List Char

namespace Text

/-! ## White space -/

/-- The code points with the property `White_Space`, as closed ranges. -/
def blankRanges : List (Nat × Nat) :=
  [(0x09, 0x0D), (0x20, 0x20), (0x85, 0x85), (0xA0, 0xA0), (0x1680, 0x1680),
   (0x2000, 0x200A), (0x2028, 0x2029), (0x202F, 0x202F), (0x205F, 0x205F),
   (0x3000, 0x3000)]

/-- The property `White_Space`. -/
def isBlank (c : Char) : Bool :=
  blankRanges.any fun (lo, hi) => lo ≤ c.toNat && c.toNat ≤ hi

/-- A text without its leading white space. -/
def trimStart (t : Text) : Text :=
  t.dropWhile isBlank

/-- A text without the longest run at its end that satisfies `p`. -/
def dropEndWhile (p : Char → Bool) (t : Text) : Text :=
  (t.reverse.dropWhile p).reverse

/-- A text without its trailing white space. -/
def trimEnd (t : Text) : Text :=
  t.dropEndWhile isBlank

/-- A text without white space at either end. -/
def trim (t : Text) : Text :=
  trimEnd (trimStart t)

/-! ## Bytes -/

/-- The number of bytes of the UTF-8 encoding. -/
def byteSize : Text → Nat
  | [] => 0
  | c :: rest => c.utf8Size + byteSize rest

/-- The UTF-8 encoding. -/
def utf8 (t : Text) : List UInt8 :=
  t.flatMap String.utf8EncodeChar

/-- The text that some bytes encode in UTF-8, if they encode one. -/
def ofUtf8? (bytes : List UInt8) : Option Text :=
  (String.fromUTF8? bytes.toByteArray).map String.toList

/-- The text from byte offset `n` on, if that offset is a character boundary. -/
def dropBytes? : Nat → Text → Option Text
  | 0, t => some t
  | _ + 1, [] => none
  | n + 1, c :: rest =>
    if c.utf8Size ≤ n + 1 then dropBytes? (n + 1 - c.utf8Size) rest else none

/-- The text in front of byte offset `n`, if that offset is a character boundary. -/
def takeBytes? : Nat → Text → Option Text
  | 0, _ => some []
  | _ + 1, [] => none
  | n + 1, c :: rest =>
    if c.utf8Size ≤ n + 1 then (takeBytes? (n + 1 - c.utf8Size) rest).map (c :: ·) else none

/-! ## Order -/

/-- Whether a text comes before another one in the order of code points, which is also
the order of the encodings. -/
def precedes : Text → Text → Bool
  | _, [] => false
  | [], _ :: _ => true
  | a :: s, b :: t => a.toNat < b.toNat || a = b && precedes s t

theorem precedes_trans {s t u : Text} (h : s.precedes t) (h' : t.precedes u) :
    s.precedes u := by
  induction s generalizing t u with
  | nil => cases t <;> cases u <;> simp_all [precedes]
  | cons a s ih =>
    match t, u, h, h' with
    | b :: t, c :: u, h, h' =>
      simp only [precedes, Bool.or_eq_true, decide_eq_true_eq, Bool.and_eq_true] at h h' ⊢
      rcases h with h | ⟨rfl, h⟩
      · rcases h' with h' | ⟨rfl, _⟩
        · exact Or.inl (Nat.lt_trans h h')
        · exact Or.inl h
      · rcases h' with h' | ⟨rfl, h'⟩
        · exact Or.inl h'
        · exact Or.inr ⟨rfl, ih h h'⟩

/-- Of two texts that differ, one comes before the other. -/
theorem precedes_of_not {s t : Text} (h : ¬ s.precedes t) (differ : s ≠ t) : t.precedes s := by
  induction s generalizing t with
  | nil => cases t <;> simp_all [precedes]
  | cons a s ih =>
    match t, h, differ with
    | [], _, _ => rfl
    | b :: t, h, differ =>
      simp only [precedes, Bool.or_eq_true, decide_eq_true_eq, Bool.and_eq_true,
        not_or, not_and] at h ⊢
      by_cases same : a = b
      · subst same
        exact Or.inr ⟨rfl, ih (h.2 rfl) fun e => differ (e ▸ rfl)⟩
      · exact Or.inl (Nat.lt_of_le_of_ne (Nat.not_lt.1 h.1) fun e =>
          same (Char.toNat_inj.1 e).symm)

/-! ## Pieces -/

/-- The pieces between the occurrences of `sep`; there is always one more piece
than there are separators. -/
def pieces {α : Type} [DecidableEq α] (sep : α) : List α → List (List α)
  | [] => [[]]
  | c :: rest =>
    if c = sep then [] :: pieces sep rest
    else match pieces sep rest with
      | [] => [[c]]
      | piece :: others => (c :: piece) :: others

/-- The texts in order, with `sep` between neighbours. -/
def join (sep : Text) (texts : List Text) : Text :=
  List.intercalate sep texts

/-- Whether `needle` occurs in a text as a contiguous part. -/
def hasPart (needle : Text) : Text → Bool
  | [] => needle.isEmpty
  | c :: rest => needle.isPrefixOf (c :: rest) || hasPart needle rest

/-- The decimal numeral of a number. -/
def ofNat (n : Nat) : Text :=
  Nat.toDigits 10 n

/-- The ASCII capitals in lower case; every other character is kept. -/
def asciiLower (t : Text) : Text :=
  t.map Char.toLower

end Text

end InlineChoice
