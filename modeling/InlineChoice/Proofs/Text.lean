import InlineChoice.Text
import Mathlib.Data.List.DropRight
import Mathlib.Data.List.Infix
import Mathlib.Tactic.SplitIfs

/-!
# Laws of texts

A text is a list of code points, so most of its laws are laws of lists. This
module adds what the theory of annotated lines needs beyond them.

* `exists_trim` cuts a text into the white space in front of its trimmed part,
  the trimmed part, and the white space behind it; `trim_surround` is the
  converse.
* `dropBytes?_byteSize_append` and `takeBytes?_byteSize_append` say that the
  byte size of a front part is an offset at which the text can be cut.
* `utf8_lt_of_precedes` says that texts are ordered like their encodings.
* `append_eq_append_cons` decides on which side of a character a word lies that
  does not contain this character. Every argument that an inserted space cannot
  be part of a marker rests on it.
-/

namespace InlineChoice.Text

/-! ## Bytes -/

@[simp] theorem byteSize_nil : byteSize [] = 0 := rfl

theorem byteSize_cons (c : Char) (t : Text) :
    byteSize (c :: t) = c.utf8Size + byteSize t := rfl

@[simp] theorem byteSize_append (s t : Text) :
    byteSize (s ++ t) = byteSize s + byteSize t := by
  induction s with
  | nil => simp
  | cons c s ih => rw [List.cons_append, byteSize_cons, byteSize_cons, ih, Nat.add_assoc]

theorem byteSize_pos {t : Text} (h : t ≠ []) : 0 < byteSize t := by
  obtain ⟨c, rest, rfl⟩ := List.exists_cons_of_ne_nil h
  rw [byteSize_cons]
  exact Nat.add_pos_left c.utf8Size_pos _

/-- An offset behind the first character is an offset in the rest. -/
theorem dropBytes?_cons (c : Char) (t : Text) (n : Nat) :
    dropBytes? (c.utf8Size + n) (c :: t) = dropBytes? n t := by
  obtain ⟨size, hsize⟩ := Nat.exists_eq_add_one.mpr c.utf8Size_pos
  rw [hsize, Nat.add_right_comm, dropBytes?, if_pos (by omega)]
  congr 1
  omega

theorem takeBytes?_cons (c : Char) (t : Text) (n : Nat) :
    takeBytes? (c.utf8Size + n) (c :: t) = (takeBytes? n t).map (c :: ·) := by
  obtain ⟨size, hsize⟩ := Nat.exists_eq_add_one.mpr c.utf8Size_pos
  rw [hsize, Nat.add_right_comm, takeBytes?, if_pos (by omega)]
  congr 2
  omega

/-- A cut at the byte size of a front part leaves what follows it. -/
@[simp] theorem dropBytes?_byteSize_append (s t : Text) :
    dropBytes? (byteSize s) (s ++ t) = some t := by
  induction s with
  | nil => simp [dropBytes?]
  | cons c s ih => rw [byteSize_cons, List.cons_append, dropBytes?_cons, ih]

/-- A cut behind two parts leaves what follows both. -/
theorem dropBytes?_behind (front part rest : Text) :
    dropBytes? (byteSize front + byteSize part) (front ++ (part ++ rest)) = some rest := by
  rw [← byteSize_append, ← List.append_assoc, dropBytes?_byteSize_append]

/-- A cut at the byte size of a front part gives this part. -/
@[simp] theorem takeBytes?_byteSize_append (s t : Text) :
    takeBytes? (byteSize s) (s ++ t) = some s := by
  induction s with
  | nil => simp [takeBytes?]
  | cons c s ih =>
      rw [byteSize_cons, List.cons_append, takeBytes?_cons, ih, Option.map_some]

/-! ## Order -/

/-- The encodings of two characters differ before either of them ends, and the first
difference decides like the code points. -/
theorem utf8EncodeChar_append_lt {c d : Char} (h : c.toNat < d.toNat) (s t : List UInt8) :
    String.utf8EncodeChar c ++ s < String.utf8EncodeChar d ++ t := by
  have hc : c.val.toNat < d.val.toNat := h
  have hd : d.val.toNat < 0x110000 := by
    rcases d.valid with h | h <;> omega
  have hlt {a b : Nat} (ha : a < 256) (hb : b < 256) : UInt8.ofNat a < UInt8.ofNat b ↔ a < b := by
    simp [UInt8.lt_iff_toNat_lt, Nat.mod_eq_of_lt ha, Nat.mod_eq_of_lt hb]
  have heq {a b : Nat} (ha : a < 256) (hb : b < 256) : UInt8.ofNat a = UInt8.ofNat b ↔ a = b := by
    simp [← UInt8.toNat_inj, Nat.mod_eq_of_lt ha, Nat.mod_eq_of_lt hb]
  have hdigits (n : Nat) : n / 4096 = n / 64 / 64 ∧ n / 262144 = n / 64 / 64 / 64 := by omega
  simp only [String.utf8EncodeChar, hdigits]
  generalize c.val.toNat = m at hc ⊢
  generalize d.val.toNat = n at hc hd ⊢
  -- One goal for each pair of lengths; both numbers are compared digit by digit to base 64.
  split_ifs <;>
    simp (disch := omega) only [List.cons_append, List.nil_append, List.cons_lt_cons_iff, hlt,
      heq] <;>
    omega

/-- The order of texts is the order of their encodings. -/
theorem utf8_lt_of_precedes {s t : Text} (h : s.precedes t = true) : s.utf8 < t.utf8 := by
  induction s generalizing t with
  | nil =>
      cases t with
      | nil => cases h
      | cons d t =>
          show [] < String.utf8EncodeChar d ++ utf8 t
          obtain ⟨b, rest, hd⟩ := List.exists_cons_of_ne_nil (String.utf8EncodeChar_ne_nil (c := d))
          rw [hd]
          exact List.nil_lt_cons _ _
  | cons c s ih =>
      cases t with
      | nil => cases h
      | cons d t =>
          show String.utf8EncodeChar c ++ utf8 s < String.utf8EncodeChar d ++ utf8 t
          rw [precedes, Bool.or_eq_true, Bool.and_eq_true, decide_eq_true_eq,
            decide_eq_true_eq] at h
          rcases h with hlt | ⟨rfl, hrest⟩
          · exact utf8EncodeChar_append_lt hlt _ _
          · exact List.append_left_lt (ih hrest)

/-! ## Runs -/

/-- The longest run of a kind at the head of a text ends where the first character
of another kind stands. -/
theorem takeWhile_run {p : Char → Bool} {run rest : Text} (hrun : ∀ c ∈ run, p c = true)
    (hrest : ∀ c, rest.head? = some c → p c = false) : (run ++ rest).takeWhile p = run := by
  rw [List.takeWhile_append_of_pos hrun]
  cases rest with
  | nil => simp
  | cons c rest => simp [hrest c rfl]

theorem dropWhile_run {p : Char → Bool} {run rest : Text} (hrun : ∀ c ∈ run, p c = true)
    (hrest : ∀ c, rest.head? = some c → p c = false) : (run ++ rest).dropWhile p = rest := by
  rw [List.dropWhile_append_of_pos hrun]
  cases rest with
  | nil => rfl
  | cons c rest => simp [hrest c rfl]

/-- A text is what remains without its last run, and that run. -/
theorem exists_dropEndWhile (p : Char → Bool) (t : Text) :
    ∃ run, t = t.dropEndWhile p ++ run ∧ (∀ c ∈ run, p c = true) ∧
      ∀ c, (t.dropEndWhile p).getLast? = some c → p c = false := by
  refine ⟨t.rtakeWhile p, List.rdropWhile_append_rtakeWhile.symm,
    fun c hc => List.mem_rtakeWhile_imp hc, fun c hc => ?_⟩
  have hne : t.rdropWhile p ≠ [] := by
    rintro hnil
    rw [show t.dropEndWhile p = [] from hnil] at hc
    cases hc
  have hlast := List.rdropWhile_last_not p t hne
  rw [List.getLast?_eq_some_getLast (show t.dropEndWhile p ≠ [] from hne)] at hc
  rw [← Option.some.inj hc]
  exact eq_false_of_ne_true hlast

theorem dropEndWhile_concat_run {p : Char → Bool} (front : Text) {last : Char} {run : Text}
    (hlast : p last = false) (hrun : ∀ c ∈ run, p c = true) :
    dropEndWhile p (front ++ last :: run) = front ++ [last] := by
  have hrev : ∀ c ∈ run.reverse, p c = true := fun c hc => hrun c (List.mem_reverse.mp hc)
  rw [dropEndWhile, List.reverse_append, List.reverse_cons, List.append_assoc,
    List.dropWhile_append_of_pos hrev]
  simp [hlast]

/-! ## White space at the ends -/

/-- Every character is white space. -/
def AllBlank (t : Text) : Prop :=
  ∀ c ∈ t, isBlank c = true

theorem AllBlank.nil : AllBlank [] := by
  intro c hc
  cases hc

theorem AllBlank.space : AllBlank [' '] := by
  intro c hc
  rw [List.mem_singleton.mp hc]
  decide

theorem allBlank_takeWhile (t : Text) : AllBlank (t.takeWhile isBlank) :=
  fun _ hc => List.mem_takeWhile_imp hc

theorem dropEndWhile_cons (p : Char → Bool) (c : Char) (t : Text) :
    dropEndWhile p (c :: t) =
      if t.dropEndWhile p = [] then if p c then [] else [c] else c :: t.dropEndWhile p := by
  simp only [dropEndWhile, List.reverse_cons, List.dropWhile_append, List.reverse_eq_nil_iff,
    List.isEmpty_iff]
  by_cases hnil : t.reverse.dropWhile p = []
  · by_cases hc : p c <;> simp [hnil, hc]
  · simp [hnil]

theorem dropEndWhile_append_of_all {p : Char → Bool} (s : Text) {t : Text}
    (ht : ∀ c ∈ t, p c = true) : (s ++ t).dropEndWhile p = s.dropEndWhile p := by
  have hrev : ∀ c ∈ t.reverse, p c = true := fun c hc => ht c (List.mem_reverse.mp hc)
  rw [dropEndWhile, List.reverse_append, List.dropWhile_append_of_pos hrev, dropEndWhile]

theorem trimStart_append_of_blank {s : Text} (hs : AllBlank s) (t : Text) :
    trimStart (s ++ t) = trimStart t :=
  List.dropWhile_append_of_pos hs

theorem trim_append_of_blank (s : Text) {t : Text} (ht : AllBlank t) :
    trim (s ++ t) = trim s := by
  by_cases hs : s.dropWhile isBlank = []
  · have hall : t.dropWhile isBlank = [] := List.dropWhile_eq_nil_iff.mpr ht
    simp only [trim, trimStart, List.dropWhile_append, hs, hall, List.isEmpty_nil, if_true]
  · simp only [trim, trimStart, List.dropWhile_append, List.isEmpty_iff, hs, if_false]
    exact dropEndWhile_append_of_all _ ht

/-- White space around a text does not show after trimming. -/
theorem trim_surround {before after : Text} (hbefore : AllBlank before)
    (hafter : AllBlank after) (t : Text) :
    trim (before ++ t ++ after) = trim t := by
  rw [trim_append_of_blank _ hafter, trim, trimStart_append_of_blank hbefore, ← trim]

/-- A text that is white space throughout trims to nothing. -/
theorem trim_eq_nil_iff (t : Text) : t.trim = [] ↔ AllBlank t := by
  constructor
  · intro h
    have hmid : ∀ c ∈ t.dropWhile isBlank, isBlank c = true :=
      List.rdropWhile_eq_nil_iff.mp h
    have hnil : t.dropWhile isBlank = [] := by
      rw [← List.dropWhile_eq_nil_iff.mpr hmid, List.dropWhile_idempotent]
    exact List.dropWhile_eq_nil_iff.mp hnil
  · intro h
    have hnil : t.trimStart = [] := List.dropWhile_eq_nil_iff.mpr h
    rw [trim, hnil]
    rfl

/-- A text is its leading white space, its trimmed part, and white space. Where
nothing remains, all of it counts as leading. -/
theorem exists_trim (t : Text) :
    ∃ after, t = t.takeWhile isBlank ++ t.trim ++ after ∧ AllBlank after ∧
      (t.trim = [] → after = []) := by
  by_cases hnil : t.trim = []
  · have hblank : AllBlank t := (trim_eq_nil_iff t).mp hnil
    refine ⟨[], ?_, AllBlank.nil, fun _ => rfl⟩
    rw [hnil, List.append_nil, List.append_nil, List.takeWhile_eq_self_iff.mpr hblank]
  · refine ⟨t.trimStart.rtakeWhile isBlank, ?_, ?_, fun h => absurd h hnil⟩
    · calc t = t.takeWhile isBlank ++ t.dropWhile isBlank :=
            List.takeWhile_append_dropWhile.symm
        _ = t.takeWhile isBlank ++ (t.trim ++ t.trimStart.rtakeWhile isBlank) := by
            rw [show t.trim ++ t.trimStart.rtakeWhile isBlank = t.dropWhile isBlank from
              List.rdropWhile_append_rtakeWhile]
        _ = _ := (List.append_assoc _ _ _).symm
    · exact fun c hc => List.mem_rtakeWhile_imp hc

theorem mem_of_mem_trim {t : Text} {c : Char} (h : c ∈ trim t) : c ∈ t := by
  obtain ⟨after, ht, -, -⟩ := exists_trim t
  rw [ht]
  simp [h]

theorem length_trim_le (t : Text) : t.trim.length ≤ t.length := by
  obtain ⟨after, ht, -, -⟩ := exists_trim t
  have hlength := congrArg List.length ht
  rw [List.length_append, List.length_append] at hlength
  omega

@[simp] theorem trim_trim (t : Text) : t.trim.trim = t.trim := by
  obtain ⟨after, ht, hafter, -⟩ := exists_trim t
  calc t.trim.trim
      = trim (t.takeWhile isBlank ++ t.trim ++ after) :=
        (trim_surround (allBlank_takeWhile t) hafter _).symm
    _ = t.trim := by rw [← ht]

/-- A trimmed text does not begin with white space. -/
theorem not_blank_of_head {t : Text} (h : t.trim = t) {c : Char} (hc : t.head? = some c) :
    isBlank c = false := by
  obtain ⟨after, ht, -, -⟩ := exists_trim t
  have hlength := congrArg List.length ht
  rw [h, List.length_append, List.length_append] at hlength
  have hnone : t.takeWhile isBlank = [] := List.length_eq_zero_iff.mp (by omega)
  obtain ⟨rest, rfl⟩ := List.head?_eq_some_iff.mp hc
  by_contra hblank
  rw [List.takeWhile_cons_of_pos (eq_true_of_ne_false hblank)] at hnone
  cases hnone

/-- A trimmed text does not end with white space. -/
theorem not_blank_of_getLast {t : Text} (h : t.trim = t) {c : Char} (hc : t.getLast? = some c) :
    isBlank c = false := by
  obtain ⟨run, -, -, hlast⟩ := exists_dropEndWhile isBlank t.trimStart
  have htrim : t.trimStart.dropEndWhile isBlank = t := h
  rw [htrim] at hlast
  exact hlast c hc

/-! ## Pieces -/

/-- A piece is made of characters of its text. -/
theorem mem_of_mem_pieces {sep c : Char} {t piece : Text} (hpiece : piece ∈ pieces sep t)
    (hc : c ∈ piece) : c ∈ t := by
  induction t generalizing piece with
  | nil =>
      obtain rfl : piece = [] := by simpa [pieces] using hpiece
      cases hc
  | cons d t ih =>
      rw [pieces] at hpiece
      split at hpiece
      · rcases List.mem_cons.mp hpiece with rfl | hpiece
        · cases hc
        · exact List.mem_cons_of_mem d (ih hpiece hc)
      · split at hpiece
        · obtain rfl : piece = [d] := by simpa using hpiece
          obtain rfl : c = d := by simpa using hc
          exact List.mem_cons_self
        · next first others hpieces =>
          rw [hpieces] at ih
          rcases List.mem_cons.mp hpiece with rfl | hpiece
          · rcases List.mem_cons.mp hc with rfl | hc
            · exact List.mem_cons_self
            · exact List.mem_cons_of_mem d (ih List.mem_cons_self hc)
          · exact List.mem_cons_of_mem d (ih (List.mem_cons_of_mem first hpiece) hc)

theorem pieces_of_notMem {sep : Char} {t : Text} (h : sep ∉ t) : pieces sep t = [t] := by
  induction t with
  | nil => rfl
  | cons c t ih =>
      obtain ⟨hc, ht⟩ : sep ≠ c ∧ sep ∉ t := by simpa using h
      rw [pieces, if_neg hc.symm, ih ht]

theorem pieces_append_sep {sep : Char} {s : Text} (h : sep ∉ s) (t : Text) :
    pieces sep (s ++ sep :: t) = s :: pieces sep t := by
  induction s with
  | nil => rw [List.nil_append, pieces, if_pos rfl]
  | cons c s ih =>
      obtain ⟨hc, hs⟩ : sep ≠ c ∧ sep ∉ s := by simpa using h
      rw [List.cons_append, pieces, if_neg hc.symm, ih hs]

/-- Pieces put together with a character that is in none of them fall apart again. -/
theorem pieces_join {sep : Char} {texts : List Text} (hne : texts ≠ [])
    (h : ∀ t ∈ texts, sep ∉ t) : pieces sep (join [sep] texts) = texts := by
  induction texts with
  | nil => exact absurd rfl hne
  | cons t others ih =>
      have ht : sep ∉ t := h t List.mem_cons_self
      cases others with
      | nil => rw [join, List.intercalate_singleton, pieces_of_notMem ht]
      | cons u others =>
          have ih := ih (List.cons_ne_nil u others) fun v hv => h v (List.mem_cons_of_mem t hv)
          rw [join, List.intercalate_cons_cons, List.append_assoc, List.singleton_append,
            pieces_append_sep ht, ← join, ih]

/-! ## Words and separating characters -/

/-- A word that does not contain a character lies in front of it or behind it. -/
theorem append_eq_append_cons {α : Type} {c : α} {word front back left right : List α}
    (h : front ++ word ++ back = left ++ c :: right) (hc : c ∉ word) :
    (∃ rest, left = front ++ word ++ rest ∧ back = rest ++ c :: right) ∨
      ∃ rest, front = left ++ c :: rest ∧ right = rest ++ word ++ back := by
  rcases List.append_eq_append_iff.mp h with ⟨rest, hleft, hback⟩ | ⟨rest, hword, hright⟩
  · exact Or.inl ⟨rest, hleft, hback⟩
  · cases rest with
    | nil =>
        refine Or.inl ⟨[], ?_, ?_⟩
        · rw [List.append_nil, hword, List.append_nil]
        · simpa using hright.symm
    | cons d rest =>
        obtain ⟨rfl, rfl⟩ : c = d ∧ right = rest ++ back := by simpa using hright
        rcases List.append_eq_append_iff.mp hword with ⟨mid, hleft, hmid⟩ | ⟨mid, hfront, hmid⟩
        · exact absurd (hmid ▸ by simp) hc
        · cases mid with
          | nil => exact absurd (by simp only [List.nil_append] at hmid; simp [← hmid]) hc
          | cons e mid =>
              obtain ⟨rfl, rfl⟩ : c = e ∧ rest = mid ++ word := by simpa using hmid
              exact Or.inr ⟨mid, hfront, rfl⟩

/-- A word that occurs around a character it does not contain occurs on one side. -/
theorem infix_append_cons {α : Type} {c : α} {word left right : List α}
    (h : word <:+: left ++ c :: right) (hc : c ∉ word) :
    word <:+: left ∨ word <:+: right := by
  obtain ⟨front, back, h⟩ := h
  rcases append_eq_append_cons h hc with ⟨rest, rfl, -⟩ | ⟨rest, -, rfl⟩
  · exact Or.inl (List.infix_append front word rest)
  · exact Or.inr (List.infix_append rest word back)

end InlineChoice.Text
