import InlineChoice.Proofs.Runs
import InlineChoice.Unicode.DisplayWidth
import Mathlib.Algebra.GroupWithZero.Nat

/-!
# Laws of the display width

A text is measured from its end, and a step can take columns back: a Khmer letter has one
column until it turns out to be a subscript. What can still be taken back is owed by the
sign that the last step left behind (`DisplayWidth.Sign.debt`), and no text owes more than
it takes (`DisplayWidth.debt_le_measure`). So the sum is never negative
(`measure_eq_displayWidth`), and a text that leaves nothing behind is measured apart from
what stands in front of it (`displayWidth_append`). A step also takes a bounded number of
columns, so short texts are not wide (`displayWidth_le`).

A character is solitary if it leaves nothing behind on its own. A text of solitary
characters takes the sum of their columns (`displayWidth_of_solitary`).
-/

namespace InlineChoice

namespace Unicode

namespace DisplayWidth

/-! ## Columns of characters -/

/-- The characters in front of the combining marks take one column, but for the soft hyphen. -/
theorem charWidth_of_lt {c : Char} (hlow : c.toNat < 0x300) (hhyphen : c ≠ '\u00AD') :
    charWidth c = 1 := by
  have hcode : c.toNat ≠ 0xAD := fun heq => hhyphen (Char.toNat_inj.mp heq)
  rw [charWidth, table, RunTable.value_ofLines]
  simp only [words, List.flatMap_cons, List.flatMap_nil]
  -- Lists of characters are evaluated much faster than the lines as strings.
  repeat rw [String.toList_ofList]
  clear hhyphen
  generalize c.toNat = n at hlow hcode
  revert n
  decide +kernel

/-- The columns of a character are one digit. -/
theorem charWidth_le (c : Char) : charWidth c ≤ 15 := by
  have hdigit {digit : Char} {n : Nat} (h : hexDigit? digit = some n) : n ≤ 15 := by
    have hrange {low high : Char} (hin : (decide (low ≤ digit) && decide (digit ≤ high)) = true) :
        digit.toNat ≤ high.toNat := (of_decide_eq_true (Bool.and_eq_true_iff.mp hin).2 : _ ≤ _)
    unfold hexDigit? at h
    split at h
    · next hin =>
        have hhigh : digit.toNat ≤ 57 := hrange hin
        have hvalue : digit.toNat - 48 = n := Option.some.inj h
        omega
    split at h
    · next hin =>
        have hhigh : digit.toNat ≤ 102 := hrange hin
        have hvalue : digit.toNat - 97 + 10 = n := Option.some.inj h
        omega
    split at h
    · next hin =>
        have hhigh : digit.toNat ≤ 70 := hrange hin
        have hvalue : digit.toNat - 65 + 10 = n := Option.some.inj h
        omega
    · cases h
  rw [charWidth]
  cases hread : hexDigit? ((table.value c).toList.headD '1') with
  | none => decide
  | some n => exact hdigit hread

theorem within_eq_false {ranges : List (Nat × Nat)} {c : Char}
    (h : ∀ range ∈ ranges, c.toNat < range.1) : within ranges c = false := by
  rw [within, List.any_eq_false]
  intro range hmem
  have hlow := h range hmem
  rw [Bool.and_eq_true, decide_eq_true_eq]
  omega

/-- The Khmer letters have columns. -/
theorem charWidth_ne_zero_of_isCoengLetter {c : Char} (h : isCoengLetter c = true) :
    charWidth c ≠ 0 := by
  obtain ⟨k, hk, hcode⟩ : ∃ k < 0x30, c.toNat = 0x1780 + k := by
    simp only [isCoengLetter, within, List.any_cons, List.any_nil, Bool.or_eq_true,
      Bool.and_eq_true, decide_eq_true_eq, Bool.false_eq_true, or_false] at h
    exact ⟨c.toNat - 0x1780, by omega, by omega⟩
  rw [charWidth, table, RunTable.value_ofLines, hcode]
  simp only [words, List.flatMap_cons, List.flatMap_nil]
  repeat rw [String.toList_ofList]
  clear h hcode
  revert k
  decide +kernel

/-! ## What can be taken back -/

/-- The columns that a sign may still take back from the text that starts with it. -/
def Sign.debt : Sign → Int
  | .ligature .coeng _ => 1
  | .ligature .tifinaghJoiner _ => 1
  | .joinedFlag false => 1
  | _ => 0

theorem Sign.debt_nonneg (sign : Sign) : 0 ≤ sign.debt := by
  unfold debt
  split <;> decide

/-- A step pays what it leaves behind, if the text behind it has already paid a debt, and
does not take more columns than a digit can say. -/
def Pays (debt : Int) (change : Int × Following) : Prop :=
  change.2.sign.debt ≤ debt + change.1 ∧ change.1 ≤ 15

instance (debt : Int) (change : Int × Following) : Decidable (Pays debt change) :=
  inferInstanceAs (Decidable (_ ∧ _))

theorem Pays.mono {debt debt' : Int} {change : Int × Following} (h : Pays debt change)
    (hle : debt ≤ debt') : Pays debt' change := by
  unfold Pays at *
  omega

theorem Pays.ite {p : Prop} [Decidable p] {debt : Int} {a b : Int × Following}
    (ha : Pays debt a) (hb : Pays debt b) : Pays debt (if p then a else b) := by
  split
  · exact ha
  · exact hb

/-- A selector takes on no debt. -/
theorem debt_select_le (f : Following) (selector : Selector) :
    (f.select selector).sign.debt ≤ f.sign.debt := by
  have hnonneg := f.sign.debt_nonneg
  unfold Following.select
  split
  · exact Int.le_refl _
  · exact Int.le_refl _
  · exact Int.le_refl _
  · exact hnonneg

/-- What follows takes on no debt when a selector finds no character to act on. -/
theorem debt_unselect_le (f : Following) (p : Prop) [Decidable p] :
    (if p then f.unselect else f).sign.debt ≤ f.sign.debt := by
  have hnonneg := f.sign.debt_nonneg
  split
  · unfold Following.unselect
    split
    · exact Int.le_refl _
    · exact hnonneg
  · exact Int.le_refl _

theorem debt_ite {p : Prop} [Decidable p] {a b : Following} (ha : a.sign.debt = 0)
    (hb : b.sign.debt = 0) : (if p then a else b).sign.debt = 0 := by
  split
  · exact ha
  · exact hb

/-- A character that melts with nothing pays with its own columns. -/
theorem pays_alone (c : Char) : Pays 0 (alone c) := by
  have hcolumns : (alone c).1 ≤ 15 := Int.ofNat_le.mpr (charWidth_le c)
  by_cases hcoeng : isCoengLetter c = true
  · have hdebt : (alone c).2.sign.debt ≤ 1 := by
      unfold Sign.debt
      split <;> decide
    have hpositive := charWidth_ne_zero_of_isCoengLetter hcoeng
    have hwidth : (alone c).1 = charWidth c := rfl
    unfold Pays
    omega
  · have hdebt : (alone c).2.sign.debt = 0 := by
      unfold alone
      rw [if_neg hcoeng]
      repeat' apply debt_ite
      all_goals rfl
    have hwidth : 0 ≤ (alone c).1 := Int.natCast_nonneg _
    unfold Pays
    omega

theorem forall_ite {α : Type} {p : Prop} [Decidable p] {a b : Option α} {P : α → Prop}
    (ha : ∀ x ∈ a, P x) (hb : ∀ x ∈ b, P x) : ∀ x ∈ if p then a else b, P x := by
  split
  · exact ha
  · exact hb

/-- What melts takes back no more than its sign owes. -/
theorem pays_of_melted (c : Char) (sign : Sign) :
    ∀ change ∈ melted? c sign, Pays sign.debt change := by
  unfold melted?
  cases sign with
  | ligature kind joined =>
      cases kind <;> cases joined <;> repeat' apply forall_ite
      all_goals rintro change ⟨⟩ <;> decide
  | flagLetter paired =>
      cases paired <;> repeat' apply forall_ite
      all_goals rintro change ⟨⟩ <;> decide
  | joinedFlag even =>
      cases even <;> repeat' apply forall_ite
      all_goals rintro change ⟨⟩ <;> decide
  | _ =>
      repeat' apply forall_ite
      all_goals rintro change ⟨⟩ <;> decide

theorem pays_getD_melted (c : Char) (sign : Sign) :
    Pays sign.debt ((melted? c sign).getD (alone c)) := by
  cases hmelted : melted? c sign with
  | none => exact (pays_alone c).mono sign.debt_nonneg
  | some change => exact pays_of_melted c sign change hmelted

theorem pays_beyondLatin (c : Char) (f : Following) : Pays f.sign.debt (beyondLatin c f) := by
  have hnonneg := f.sign.debt_nonneg
  have hselect (selector : Selector) : Pays f.sign.debt (0, f.select selector) := by
    refine ⟨?_, (by decide : (0 : Int) ≤ 15)⟩
    show (f.select selector).sign.debt ≤ f.sign.debt + 0
    rw [Int.add_zero]
    exact debt_select_le f selector
  unfold beyondLatin
  refine .ite ((pays_alone c).mono hnonneg) (.ite (hselect _) (.ite (hselect _) (.ite ?_ ?_)))
  · exact ⟨Int.le_trans hnonneg (Int.le_add_one (Int.le_refl _)), by decide⟩
  · have hle := debt_unselect_le f (f.selector = some .text)
    generalize (if f.selector = some .text then f.unselect else f) = g at hle
    refine Pays.mono ?_ hle
    dsimp only
    split
    · next kind joined hsign =>
        rw [hsign]
        have hjoined (joined' : Bool) :
            Pays (Sign.debt (.ligature kind joined)) (0, ⟨.ligature kind joined', none⟩) := by
          cases kind <;> cases joined <;> cases joined' <;> decide
        exact .ite (hjoined true) (.ite (hjoined joined) (pays_getD_melted c _))
    · exact pays_getD_melted c _

/-- **One step pays its debt**: it takes no more columns back than what follows has put in. -/
theorem pays_step (c : Char) (f : Following) : Pays f.sign.debt (step c f) := by
  have hnonneg := f.sign.debt_nonneg
  unfold step
  refine .ite ?_ ?_
  · have hemoji (columns : Int) (hcolumns : 0 ≤ columns ∧ columns ≤ 15) :
        Pays f.sign.debt (columns, .ofSign .emoji) :=
      ⟨Int.add_nonneg hnonneg hcolumns.1, hcolumns.2⟩
    refine hemoji _ ?_
    split <;> decide
  · have hle := debt_unselect_le f (f.selector = some .emoji)
    generalize (if f.selector = some .emoji then f.unselect else f) = g at hle
    refine Pays.mono ?_ hle
    have hdebt := g.sign.debt_nonneg
    have hfeed : Pays g.sign.debt (1, .ofSign .lineFeed) :=
      ⟨Int.le_add_one hdebt, (by decide : (1 : Int) ≤ 15)⟩
    have hreturn : Pays g.sign.debt (0, .nothing) :=
      ⟨(Int.add_zero _).symm ▸ hdebt, (by decide : (0 : Int) ≤ 15)⟩
    have hletter : Pays g.sign.debt (1, .nothing) :=
      ⟨Int.le_add_one hdebt, (by decide : (1 : Int) ≤ 15)⟩
    exact .ite (.ite hfeed (.ite hreturn hletter)) (pays_beyondLatin c g)

theorem measure_cons (c : Char) (t : Text) : measure (c :: t) =
    ((measure t).1 + (step c (measure t).2).1, (step c (measure t).2).2) :=
  rfl

/-- No text owes more columns than it takes. -/
theorem debt_le_measure (t : Text) : (measure t).2.sign.debt ≤ (measure t).1 := by
  induction t with
  | nil => exact Int.le_refl _
  | cons c t ih =>
      obtain ⟨hstep, -⟩ := pays_step c (measure t).2
      show (step c (measure t).2).2.sign.debt ≤ (measure t).1 + (step c (measure t).2).1
      exact Int.le_trans hstep (Int.add_le_add_right ih _)

/-- A text takes no more columns than its characters could. -/
theorem measure_le (t : Text) : (measure t).1 ≤ 15 * t.length := by
  induction t with
  | nil => exact Int.le_refl _
  | cons c t ih =>
      obtain ⟨-, hstep⟩ := pays_step c (measure t).2
      rw [measure_cons, List.length_cons]
      show (measure t).1 + (step c (measure t).2).1 ≤ _
      omega

/-! ## Texts side by side -/

/-- A text that leaves nothing behind adds its columns to what stands in front of it. -/
theorem measure_append (s : Text) {t : Text} (h : (measure t).2 = .nothing) :
    measure (s ++ t) = ((measure s).1 + (measure t).1, (measure s).2) := by
  induction s with
  | nil => exact Prod.ext (Int.zero_add _).symm h
  | cons c s ih =>
      rw [List.cons_append, measure_cons, measure_cons, ih, Int.add_right_comm]

/-- The step in front of nothing. -/
theorem step_nothing (c : Char) : step c .nothing =
    if c.toNat ≤ 0xA0 then (1, if c = '\n' then .ofSign .lineFeed else .nothing)
    else alone c := by
  have hemoji : (decide (Following.nothing.selector = some .emoji) && startsEmojiSequence c) =
      false := rfl
  have hfeed : (decide (c = '\r') && decide (Following.nothing.sign = .lineFeed)) = false :=
    Bool.and_false _
  unfold step
  rw [hemoji, if_neg Bool.false_ne_true]
  show (if c.toNat ≤ 0xA0 then _ else beyondLatin c .nothing) = _
  rw [beyondLatin, if_pos rfl, apply_ite (Prod.mk (1 : Int))]
  congr 2
  exact (if_neg (Bool.eq_false_iff.mp hfeed))

/-- Where there is nothing to melt with, a character takes its own columns. -/
theorem step_nothing_fst (c : Char) : (step c .nothing).1 = charWidth c := by
  rw [step_nothing]
  split
  · next hlatin =>
      have hhyphen : c ≠ '\u00AD' := by
        rintro rfl
        exact absurd hlatin (by decide)
      rw [charWidth_of_lt (by omega) hhyphen]
      rfl
  · rfl

/-- A character that leaves nothing behind on its own. -/
def Solitary (c : Char) : Prop :=
  (step c .nothing).2 = .nothing

/-- The characters in front of the combining marks are solitary, but for the line feed. -/
theorem solitary_of_lt {c : Char} (hlow : c.toNat < 0x300) (hfeed : c ≠ '\n') : Solitary c := by
  unfold Solitary
  rw [step_nothing, if_neg hfeed]
  split
  · rfl
  · have hne {d : Char} (hd : 0x300 ≤ d.toNat) : ¬ c = d := by
      rintro rfl
      omega
    have hwithin {ranges : List (Nat × Nat)} (h : ∀ range ∈ ranges, 0x300 ≤ range.1) :
        within ranges c = false :=
      within_eq_false fun range hmem => Nat.lt_of_lt_of_le hlow (h range hmem)
    have hemoji : BinaryProperty.emojiPresentation.contains c = false := by
      rw [BinaryProperty.emojiPresentation, RangeSet.contains_ofLines]
      generalize hruns : runsBelow c.toNat _ = n
      obtain rfl : 0 = n := by
        rw [← hruns]
        simp only [words, List.flatMap_cons, List.flatMap_nil]
        repeat rw [String.toList_ofList]
        clear hruns
        generalize c.toNat = k at hlow
        revert k
        decide +kernel
      rfl
    have hflag : isFlagLetter c = false := hwithin (by decide)
    have htone : isSkinTone c = false := hwithin (by decide)
    have halef : isAlef c = false := hwithin (by decide)
    have hcoeng : isCoengLetter c = false := hwithin (by decide)
    have htifinagh : isTifinaghConsonant c = false := hwithin (by decide)
    simp only [alone, hflag, htone, hemoji, halef, hcoeng, htifinagh,
      hne (d := '\uFE0F') (by decide), hne (d := '\uFE0E') (by decide),
      hne (d := '\u05DC') (by decide), hne (d := '\u1A10') (by decide),
      hne (d := '\uA4FC') (by decide), hne (d := '\uA4FD') (by decide),
      if_false, Bool.false_eq_true, decide_false, Bool.or_false]
    rw [if_neg (by omega), if_neg (by omega), if_neg (by omega)]

theorem measure_of_solitary {t : Text} (h : ∀ c ∈ t, Solitary c) :
    measure t = (((t.map charWidth).sum : Int), .nothing) := by
  induction t with
  | nil => rfl
  | cons c t ih =>
      rw [measure_cons, ih fun d hd => h d (List.mem_cons_of_mem c hd), step_nothing_fst,
        h c List.mem_cons_self, List.map_cons, List.sum_cons, Nat.add_comm, Int.natCast_add]

end DisplayWidth

open DisplayWidth

/-- The display width is what a text measures; the sum of the steps is never negative. -/
theorem measure_eq_displayWidth (t : Text) : (measure t).1 = displayWidth t := by
  have hdebt := debt_le_measure t
  have hnonneg := (measure t).2.sign.debt_nonneg
  exact (Int.toNat_of_nonneg (Int.le_trans hnonneg hdebt)).symm

/-- A short text is not wide. -/
theorem displayWidth_le (t : Text) : displayWidth t ≤ 15 * t.length := by
  have hmeasure := measure_le t
  rw [measure_eq_displayWidth] at hmeasure
  omega

/-- **Texts side by side.** A text that leaves nothing behind takes the same columns after any
other text. -/
theorem displayWidth_append (s : Text) {t : Text} (h : (measure t).2 = .nothing) :
    displayWidth (s ++ t) = displayWidth s + displayWidth t := by
  have hmeasure := congrArg Prod.fst (measure_append s h)
  rw [measure_eq_displayWidth, measure_eq_displayWidth, measure_eq_displayWidth] at hmeasure
  omega

/-- **The columns of solitary characters** are added up. -/
theorem displayWidth_of_solitary {t : Text} (h : ∀ c ∈ t, Solitary c) :
    displayWidth t = (t.map charWidth).sum := by
  rw [displayWidth, measure_of_solitary h, Int.toNat_natCast]

/-- Solitary characters of one column each take as many columns as there are. -/
theorem displayWidth_eq_length {t : Text} (h : ∀ c ∈ t, Solitary c ∧ charWidth c = 1) :
    displayWidth t = t.length := by
  have hones : t.map charWidth = List.replicate t.length 1 := by
    rw [← List.map_const']
    exact List.map_congr_left fun c hc => (h c hc).2
  rw [displayWidth_of_solitary fun c hc => (h c hc).1, hones, List.sum_replicate_nat,
    Nat.mul_one]

end Unicode

/-! ## Narrow texts -/

/-- A text of characters that take one column each: Latin letters and signs, without line
feeds. -/
def Text.Narrow (t : Text) : Prop :=
  ∀ c ∈ t, c.toNat ≤ 0xA0 ∧ c ≠ '\n'

theorem Text.narrow_append {s t : Text} : Narrow (s ++ t) ↔ s.Narrow ∧ t.Narrow :=
  List.forall_mem_append

theorem Text.narrow_cons {c : Char} {t : Text} :
    Narrow (c :: t) ↔ (c.toNat ≤ 0xA0 ∧ c ≠ '\n') ∧ t.Narrow :=
  List.forall_mem_cons

theorem Text.narrow_space : Narrow [' '] := by
  intro c hc
  rw [List.mem_singleton.mp hc]
  decide

/-- A sign between two spaces. -/
theorem Text.narrow_spaced {c : Char} (h : c.toNat ≤ 0xA0 ∧ c ≠ '\n') : Narrow [' ', c, ' '] :=
  narrow_cons.mpr ⟨by decide, narrow_cons.mpr ⟨h, narrow_space⟩⟩

theorem Text.narrow_bar : Narrow " | ".toList :=
  narrow_spaced (by decide)

/-- A narrow text takes as many columns as it has characters. -/
theorem Unicode.displayWidth_of_narrow {t : Text} (h : t.Narrow) :
    displayWidth t = t.length := by
  refine displayWidth_eq_length fun c hc => ?_
  obtain ⟨hlow, hfeed⟩ := h c hc
  have hhyphen : c ≠ '\u00AD' := by
    rintro rfl
    exact absurd hlow (by decide)
  exact ⟨DisplayWidth.solitary_of_lt (by omega) hfeed,
    DisplayWidth.charWidth_of_lt (by omega) hhyphen⟩

end InlineChoice
