import InlineChoice.Unicode.CaseMapping
import Mathlib.Data.List.TakeWhile

/-!
# The lower case of a part of a text

Lower case does not go character by character: a capital sigma becomes `ς` where it ends a
word and `σ` elsewhere. So the lower case of a part that stands in a text need not be the
lower case that the part has on its own.

`lowerBetween` is the lower case of a part between what stands in front of it and what
follows it, and `lower_place` finds it in the lower case of the whole text. It differs from
the lower case of the part alone if and only if a capital sigma is in the way
(`lowerBetween_eq_lower_iff`), and `SigmaClash` says which ones can be: the first and the
last letter of the part, and these only if the text goes on with a letter there.
-/

namespace InlineChoice

namespace Unicode

namespace CaseMapping

/-! ## Words around a sigma -/

/-- Case mapping ignores every character of a text. -/
def AllIgnored (t : Text) : Prop :=
  ∀ c ∈ t, BinaryProperty.caseIgnorable.contains c = true

theorem allIgnored_reverse {t : Text} : AllIgnored t.reverse ↔ AllIgnored t := by
  simp [AllIgnored]

theorem startsCased_append_of_allIgnored {s : Text} (h : AllIgnored s) (t : Text) :
    startsCased (s ++ t) = startsCased t := by
  rw [startsCased, List.dropWhile_append_of_pos h, startsCased]

theorem startsCased_of_allIgnored {s : Text} (h : AllIgnored s) : startsCased s = false := by
  rw [startsCased, List.dropWhile_eq_nil_iff.mpr h]
  rfl

/-- What follows the first character that counts does not matter. -/
theorem startsCased_append_of_not {s : Text} (h : ¬ AllIgnored s) (t : Text) :
    startsCased (s ++ t) = startsCased s := by
  have hne : s.dropWhile BinaryProperty.caseIgnorable.contains ≠ [] := by
    rw [Ne, List.dropWhile_eq_nil_iff]
    exact h
  obtain ⟨c, rest, hrest⟩ := List.exists_cons_of_ne_nil hne
  rw [startsCased, startsCased, List.dropWhile_append, hrest]
  rfl

/-- A capital sigma of a part that ends a word in the part but not in the whole text, or in
the whole text but not in the part. It is the first or the last character of the part that
case mapping does not ignore. -/
inductive SigmaClash (before part after : Text) : Prop
  /-- A word goes on from the text in front of the part, and ends with the sigma. -/
  | first (u v : Text) (sigma : part = u ++ 'Σ' :: v) (ignored : AllIgnored u)
      (goesOn : startsCased before.reverse = true) (ends : startsCased (v ++ after) = false)
  /-- A word of the part ends with the sigma, and goes on behind the part. -/
  | last (u v : Text) (sigma : part = u ++ 'Σ' :: v) (word : startsCased u.reverse = true)
      (ignored : AllIgnored v) (goesOn : startsCased after = true)

/-- A clash is a capital sigma with two roles. -/
theorem sigmaClash_iff {before part after : Text} :
    SigmaClash before part after ↔ ∃ u v, part = u ++ 'Σ' :: v ∧
      isFinalSigma (u.reverse ++ before.reverse) (v ++ after) ≠ isFinalSigma u.reverse v := by
  constructor
  · intro h
    cases h with
    | first u v sigma ignored goesOn ends =>
        refine ⟨u, v, sigma, ?_⟩
        have hu := allIgnored_reverse.mpr ignored
        rw [isFinalSigma, isFinalSigma, startsCased_append_of_allIgnored hu,
          startsCased_of_allIgnored hu, goesOn, ends]
        simp
    | last u v sigma word ignored goesOn =>
        refine ⟨u, v, sigma, ?_⟩
        have hu : ¬ AllIgnored u.reverse := fun hu => by
          rw [startsCased_of_allIgnored hu] at word
          cases word
        rw [isFinalSigma, isFinalSigma, startsCased_append_of_not hu, word,
          startsCased_append_of_allIgnored ignored, startsCased_of_allIgnored ignored, goesOn]
        decide
  · rintro ⟨u, v, sigma, hroles⟩
    rw [isFinalSigma, isFinalSigma] at hroles
    by_cases hu : AllIgnored u
    · have hu' := allIgnored_reverse.mpr hu
      rw [startsCased_append_of_allIgnored hu', startsCased_of_allIgnored hu'] at hroles
      obtain ⟨hgoesOn, hends⟩ : startsCased before.reverse = true ∧
          startsCased (v ++ after) = false := by simpa using hroles
      exact .first u v sigma hu hgoesOn hends
    · have hu' : ¬ AllIgnored u.reverse := fun h => hu (allIgnored_reverse.mp h)
      rw [startsCased_append_of_not hu'] at hroles
      have hv : AllIgnored v := by
        by_contra hv
        rw [startsCased_append_of_not hv] at hroles
        exact hroles rfl
      rw [startsCased_append_of_allIgnored hv, startsCased_of_allIgnored hv] at hroles
      obtain ⟨hword, hgoesOn⟩ : startsCased u.reverse = true ∧ startsCased after = true := by
        simpa using hroles
      exact .last u v sigma hword hv hgoesOn

/-! ## Lower case between two texts -/

/-- The lower case of a character between two texts. The text in front of it is given in
reverse. -/
def lowerAt (before : Text) (c : Char) (after : Text) : Text :=
  if c = 'Σ' then (if isFinalSigma before after then ['ς'] else ['σ']) else lowerChar c

/-- The lower case of a part between two texts. The text in front of it is given in
reverse. -/
def lowerBetween (before : Text) : Text → Text → Text
  | [], _ => []
  | c :: part, after => lowerAt before c (part ++ after) ++ lowerBetween (c :: before) part after

theorem lowerAfter_cons (before : Text) (c : Char) (t : Text) :
    lowerAfter before (c :: t) = lowerAt before c t ++ lowerAfter (c :: before) t := rfl

theorem lowerAfter_append (before part t : Text) :
    lowerAfter before (part ++ t) =
      lowerBetween before part t ++ lowerAfter (part.reverse ++ before) t := by
  induction part generalizing before with
  | nil => rfl
  | cons c part ih =>
      rw [List.cons_append, lowerAfter_cons, ih, lowerBetween, List.append_assoc,
        List.reverse_cons, List.append_assoc]
      rfl

theorem lowerBetween_nil (before part : Text) :
    lowerBetween before part [] = lowerAfter before part := by
  have happend := lowerAfter_append before part []
  simpa [lowerAfter] using happend.symm

/-- The lower case of a part stands in the lower case of the text, at its own place. -/
theorem lower_place (before part after : Text) :
    ∃ front back, lower (before ++ part ++ after) =
      front ++ lowerBetween before.reverse part after ++ back := by
  refine ⟨lowerBetween [] before (part ++ after), lowerAfter ((before ++ part).reverse) after, ?_⟩
  rw [lower, List.append_assoc, lowerAfter_append, lowerAfter_append, List.append_assoc]
  simp

/-- A capital sigma at the end of a text is final if it ends a word. -/
theorem lower_concat_sigma {t : Text} (h : startsCased t.reverse = true) :
    lower (t ++ ['Σ']) = lowerBetween [] t ['Σ'] ++ ['ς'] := by
  have hfinal : isFinalSigma (t.reverse ++ []) [] = true := by
    rw [List.append_nil, isFinalSigma, h]
    rfl
  rw [lower, lowerAfter_append, lowerAfter_cons, lowerAt, if_pos rfl, if_pos hfinal]
  rfl

/-- Only the role of a capital sigma can tell two places apart. -/
theorem lowerAt_eq_iff {before before' after after' : Text} {c : Char} :
    lowerAt before c after = lowerAt before' c after' ↔
      (c = 'Σ' → isFinalSigma before after = isFinalSigma before' after') := by
  by_cases hc : c = 'Σ'
  · simp only [lowerAt, if_pos hc]
    cases isFinalSigma before after <;> cases isFinalSigma before' after' <;> simp [hc]
  · simp [lowerAt, hc]

theorem length_lowerAt (before before' after after' : Text) (c : Char) :
    (lowerAt before c after).length = (lowerAt before' c after').length := by
  rw [lowerAt, lowerAt]
  split
  · split <;> split <;> rfl
  · rfl

/-- Two places give a part the same lower case if and only if they give every capital sigma
of it the same role. -/
theorem lowerBetween_eq_iff {before before' part after after' : Text} :
    lowerBetween before part after = lowerBetween before' part after' ↔
      ∀ u v, part = u ++ 'Σ' :: v →
        isFinalSigma (u.reverse ++ before) (v ++ after) =
          isFinalSigma (u.reverse ++ before') (v ++ after') := by
  induction part generalizing before before' with
  | nil => simp [lowerBetween]
  | cons c part ih =>
      have hlength := length_lowerAt before before' (part ++ after) (part ++ after') c
      constructor
      · intro h u v hpart
        obtain ⟨hfirst, hrest⟩ := List.append_inj h hlength
        cases u with
        | nil =>
            obtain ⟨rfl, rfl⟩ := List.cons.inj hpart
            exact lowerAt_eq_iff.mp hfirst rfl
        | cons d u =>
            obtain ⟨rfl, rfl⟩ := List.cons.inj hpart
            simpa using ih.mp hrest u v rfl
      · intro h
        have hfirst : lowerAt before c (part ++ after) = lowerAt before' c (part ++ after') := by
          rw [lowerAt_eq_iff]
          rintro rfl
          exact h [] part rfl
        have hrest : lowerBetween (c :: before) part after =
            lowerBetween (c :: before') part after' := by
          rw [ih]
          rintro u v rfl
          simpa using h (c :: u) v rfl
        rw [lowerBetween, lowerBetween, hfirst, hrest]

/-- **A part keeps its lower case** in a text if and only if no capital sigma clashes. -/
theorem lowerBetween_eq_lower_iff {before part after : Text} :
    lowerBetween before.reverse part after = lower part ↔ ¬ SigmaClash before part after := by
  rw [lower, ← lowerBetween_nil, lowerBetween_eq_iff, sigmaClash_iff]
  simp only [List.append_nil, not_exists, not_and, not_not]

end CaseMapping

end Unicode

end InlineChoice
