import InlineChoice.Unicode.Runs

/-!
# What a table says of a code point

A table over the code points is read by bisection: it holds where its runs end, and the
number of ends at or below a code point is the number of its run. The ends are sums of
lengths, so they increase, and the bisection finds the place where they pass the code point.

`runsBelow` finds the same place by taking the lengths off one by one
(`countBounds_partialSums`). It looks at no more of the table than lies in front of the
code point, and it needs no array.
-/

namespace InlineChoice

namespace Unicode

/-- How many of some runs end at or below a code point, if the first one starts at zero. -/
def runsBelow (c : Nat) : List Nat → Nat
  | [] => 0
  | n :: lengths => if n ≤ c then runsBelow (c - n) lengths + 1 else 0

/-- The ends of some runs. -/
def runEnds (start : Nat) : List Nat → List Nat
  | [] => []
  | n :: lengths => (start + n) :: runEnds (start + n) lengths

theorem length_runEnds (start : Nat) (lengths : List Nat) :
    (runEnds start lengths).length = lengths.length := by
  induction lengths generalizing start with
  | nil => rfl
  | cons n lengths ih => simp [runEnds, ih]

theorem runsBelow_le_length (c : Nat) (lengths : List Nat) :
    runsBelow c lengths ≤ lengths.length := by
  induction lengths generalizing c with
  | nil => exact Nat.le_refl _
  | cons n lengths ih =>
      rw [runsBelow]
      split
      · exact Nat.succ_le_succ (ih _)
      · exact Nat.zero_le _

theorem toList_partialSums (lengths : List Nat) :
    (partialSums lengths).toList = runEnds 0 lengths := by
  obtain ⟨add, hsums, hadd⟩ : ∃ add : Array Nat × Nat → Nat → Array Nat × Nat,
      partialSums lengths = (lengths.foldl add (#[], 0)).1 ∧
      ∀ sums sum n, add (sums, sum) n = (sums.push (sum + n), sum + n) :=
    ⟨_, rfl, fun _ _ _ => rfl⟩
  have hfold (sums : Array Nat) (sum : Nat) :
      (lengths.foldl add (sums, sum)).1.toList = sums.toList ++ runEnds sum lengths := by
    clear hsums
    induction lengths generalizing sums sum with
    | nil => simp [runEnds]
    | cons n lengths ih => simp [runEnds, hadd, ih]
  rw [hsums, hfold]
  rfl

theorem le_of_mem_runEnds {start bound : Nat} {lengths : List Nat}
    (h : bound ∈ runEnds start lengths) : start ≤ bound := by
  induction lengths generalizing start with
  | nil => cases h
  | cons n lengths ih =>
      rcases List.mem_cons.mp h with rfl | hmem
      · exact Nat.le_add_right _ _
      · exact Nat.le_trans (Nat.le_add_right _ _) (ih hmem)

/-- The ends at or below a code point come first. -/
theorem runEnds_le_iff {start c i : Nat} {lengths : List Nat} (hstart : start ≤ c)
    (hi : i < (runEnds start lengths).length) :
    (runEnds start lengths)[i] ≤ c ↔ i < runsBelow (c - start) lengths := by
  induction lengths generalizing start i with
  | nil => cases hi
  | cons n lengths ih =>
      by_cases hn : n ≤ c - start
      · have hrest : runsBelow (c - start) (n :: lengths) =
            runsBelow (c - (start + n)) lengths + 1 := by
          rw [runsBelow, if_pos hn, Nat.sub_sub]
        rw [hrest]
        cases i with
        | zero =>
            have hfirst : start + n ≤ c := by omega
            simpa [runEnds] using hfirst
        | succ i =>
            have hnext : start + n ≤ c := by omega
            simpa [runEnds] using ih hnext (Nat.lt_of_succ_lt_succ hi)
      · have hnone : runsBelow (c - start) (n :: lengths) = 0 := by
          rw [runsBelow, if_neg hn]
        have hend : start + n ≤ (runEnds start (n :: lengths))[i] := by
          cases i with
          | zero => exact Nat.le_refl _
          | succ i => exact le_of_mem_runEnds (List.getElem_mem (Nat.lt_of_succ_lt_succ hi))
        rw [hnone]
        omega

/-- A bisection finds the place in front of which all bounds are at most `c`, and behind
which none is. -/
theorem bisect_eq {bounds : Array Nat} {c low high place : Nat} (hlow : low ≤ place)
    (hhigh : place ≤ high)
    (hplace : ∀ i, i < high → (bounds.getD i 0 ≤ c ↔ i < place)) :
    bisect bounds c low high = place := by
  fun_induction bisect bounds c low high with
  | case1 low high hlt middle hle ih =>
      have hmiddle : middle < place := (hplace middle (by omega)).mp hle
      exact ih hmiddle hhigh hplace
  | case2 low high hlt middle hgt ih =>
      have hmiddle : ¬ middle < place := fun h => hgt ((hplace middle (by omega)).mpr h)
      exact ih hlow (by omega) fun i hi => hplace i (by omega)
  | case3 low high hge => omega

/-- **What a bisection finds**: how many of the runs end at or below the code point. -/
theorem countBounds_partialSums (lengths : List Nat) (c : Nat) :
    countBounds (partialSums lengths) c = runsBelow c lengths := by
  have hsize : (partialSums lengths).size = lengths.length := by
    rw [← Array.length_toList, toList_partialSums, length_runEnds]
  have hplace (i : Nat) (hi : i < (partialSums lengths).size) :
      (partialSums lengths).getD i 0 ≤ c ↔ i < runsBelow c lengths := by
    have hends := runEnds_le_iff (Nat.zero_le c) (by rwa [length_runEnds, ← hsize])
    simpa [Array.getD, hi, ← toList_partialSums] using hends
  exact bisect_eq (Nat.zero_le _) (hsize ▸ runsBelow_le_length c lengths) hplace

theorem RangeSet.contains_ofLines (lines : List String) (c : Char) :
    (ofLines lines).contains c =
      decide (runsBelow c.toNat ((words lines).map hexValue) % 2 = 1) := by
  rw [contains, ofLines, countBounds_partialSums]

theorem RunTable.value_ofLines (lines : List String) (c : Char) :
    let runs := (words lines).map runOfWord
    (ofLines lines).value c =
      (runs[runsBelow c.toNat (runs.map Prod.fst)]?.map Prod.snd).getD "" := by
  intro runs
  rw [value, ofLines, countBounds_partialSums]
  simp [Array.getD_eq_getD_getElem?, runs]

end Unicode

end InlineChoice
