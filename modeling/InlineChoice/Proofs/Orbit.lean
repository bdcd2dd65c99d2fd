import InlineChoice.Proofs.Cycle
import Mathlib.Data.Nat.Find

/-!
# Orbits with repeated candidates

A candidate list may hold a value more than once. Advancing knows its position only by
the text of the value, which is the position of its first occurrence, so a repetition is
a way back: after the repeated value comes what stands behind its first occurrence, and
whatever stands behind the repetition itself is left out.

`orbit` is the sequence of values from the first candidate on. It runs along the longest
prefix without a repetition (`orbit_of_lt`), and at its end it steps back to the first
occurrence of the repeated candidate, or to the beginning if there is none
(`orbit_distinctCount`). All other values of the sequence follow from this one step back,
because a value determines the next one (`orbit_add_eq`).
-/

namespace InlineChoice

/-! ## The longest prefix without a repetition -/

/-- The length of the longest prefix of a list of candidates without a repetition. -/
def distinctCount (candidates : List Text) : Nat :=
  Nat.findGreatest (fun n => (candidates.take n).Nodup) candidates.length

section DistinctCount

variable {candidates : List Text}

theorem distinctCount_le : distinctCount candidates ≤ candidates.length :=
  Nat.findGreatest_le _

theorem nodup_take_distinctCount : (candidates.take (distinctCount candidates)).Nodup :=
  Nat.findGreatest_spec (P := fun n => (candidates.take n).Nodup) (Nat.zero_le _) (by simp)

theorem le_distinctCount {n : Nat} (hle : n ≤ candidates.length)
    (hnodup : (candidates.take n).Nodup) : n ≤ distinctCount candidates :=
  Nat.le_findGreatest hle hnodup

theorem distinctCount_pos (hne : candidates ≠ []) : 0 < distinctCount candidates := by
  have hpos : 0 < candidates.length := List.length_pos_of_ne_nil hne
  have hone : (candidates.take 1).Nodup := by
    cases candidates <;> simp
  exact le_distinctCount hpos hone

/-- No candidate of the prefix occurs twice in it. -/
theorem getElem?_inj_of_lt_distinctCount {i j : Nat} (hi : i < distinctCount candidates)
    (hj : j < distinctCount candidates) (heq : candidates[i]? = candidates[j]?) : i = j := by
  have hlength : (candidates.take (distinctCount candidates)).length =
      distinctCount candidates := by
    rw [List.length_take, Nat.min_eq_left distinctCount_le]
  have hi' : i < (candidates.take (distinctCount candidates)).length := hlength.symm ▸ hi
  refine (List.getElem?_inj hi' nodup_take_distinctCount).mp ?_
  rw [List.getElem?_take_of_lt hi, List.getElem?_take_of_lt hj, heq]

/-- The candidate behind the prefix occurs in the prefix. -/
theorem exists_first_occurrence (hlt : distinctCount candidates < candidates.length) :
    ∃ j < distinctCount candidates, candidates[j]? = candidates[distinctCount candidates]? := by
  generalize hm : distinctCount candidates = m at hlt
  have hrepeats : ¬ (candidates.take (m + 1)).Nodup := by
    intro hnodup
    have hle := le_distinctCount hlt hnodup
    omega
  have hmem : candidates[m] ∈ candidates.take m := by
    by_contra hnot
    apply hrepeats
    rw [List.take_succ_eq_append_getElem hlt, List.nodup_append]
    refine ⟨hm ▸ nodup_take_distinctCount, List.nodup_singleton _, ?_⟩
    intro c hc d hd heq
    rw [heq, List.mem_singleton.mp hd] at hc
    exact hnot hc
  obtain ⟨j, hj, heq⟩ := List.mem_iff_getElem.mp hmem
  have hjm : j < m := by
    rw [List.length_take] at hj
    omega
  refine ⟨j, hjm, ?_⟩
  rw [List.getElem_take] at heq
  rw [List.getElem?_eq_getElem (by omega), List.getElem?_eq_getElem hlt, heq]

end DistinctCount

/-! ## The orbit of the first candidate -/

/-- The values that advancing runs through from the first candidate on. -/
def orbit (candidates : List Text) (k : Nat) : Option Text :=
  (nextValue? candidates)^[k] candidates[0]?

section Orbit

variable {candidates : List Text}

theorem orbit_succ (k : Nat) :
    orbit candidates (k + 1) = nextValue? candidates (orbit candidates k) :=
  Function.iterate_succ_apply' _ k _

/-- A candidate that does not occur earlier is followed by the one behind it. -/
theorem nextValue?_of_lt_distinctCount {p : Nat} (hp : p < distinctCount candidates) :
    nextValue? candidates candidates[p]? = (candidates[p + 1]? <|> candidates[0]?) := by
  have hlt : p < candidates.length := Nat.lt_of_lt_of_le hp distinctCount_le
  have hfirst : candidates.idxOf? candidates[p] = some p := by
    refine List.idxOf?_eq_some_iff.mpr ⟨hlt, rfl, ?_⟩
    intro j hj heq
    have hsame : candidates[j]? = candidates[p]? := by
      rw [List.getElem?_eq_getElem (by omega), List.getElem?_eq_getElem hlt, heq]
    have hpos := getElem?_inj_of_lt_distinctCount (by omega) hp hsame
    omega
  rw [List.getElem?_eq_getElem hlt, nextValue?, Option.bind_some, hfirst, List.head?_eq_getElem?]

/-- Along the prefix the orbit visits the candidates in order. -/
theorem orbit_of_lt {k : Nat} (hk : k < distinctCount candidates) :
    orbit candidates k = candidates[k]? := by
  induction k with
  | zero => rfl
  | succ k ih =>
      have hlt : k + 1 < candidates.length := Nat.lt_of_lt_of_le hk distinctCount_le
      rw [orbit_succ, ih (by omega), nextValue?_of_lt_distinctCount (by omega),
        List.getElem?_eq_getElem hlt]
      rfl

/-- Behind the prefix the orbit steps to the next candidate, which it has visited already,
or to the first one if there is no next. -/
theorem orbit_distinctCount (hne : candidates ≠ []) :
    orbit candidates (distinctCount candidates) =
      (candidates[distinctCount candidates]? <|> candidates[0]?) := by
  have hpos := distinctCount_pos hne
  obtain ⟨p, hp⟩ : ∃ p, distinctCount candidates = p + 1 :=
    ⟨distinctCount candidates - 1, by omega⟩
  rw [hp, orbit_succ, orbit_of_lt (by omega), nextValue?_of_lt_distinctCount (by omega)]

/-- Where the orbit has come back to an earlier value, it goes on as from there. -/
theorem orbit_add_eq {i j : Nat} (h : orbit candidates i = orbit candidates j) (k : Nat) :
    orbit candidates (k + i) = orbit candidates (k + j) := by
  simp only [orbit, Function.iterate_add_apply] at h ⊢
  rw [h]

/-- Every value of the orbit is a candidate of the prefix. -/
theorem exists_orbit_eq (hne : candidates ≠ []) (k : Nat) :
    ∃ i < distinctCount candidates, orbit candidates k = candidates[i]? := by
  induction k with
  | zero => exact ⟨0, distinctCount_pos hne, rfl⟩
  | succ k ih =>
      obtain ⟨i, hi, hk⟩ := ih
      rw [orbit_succ, hk, nextValue?_of_lt_distinctCount hi]
      by_cases hlt : i + 1 < candidates.length
      · have hstep : (candidates[i + 1]? <|> candidates[0]?) = candidates[i + 1]? := by
          rw [List.getElem?_eq_getElem hlt]
          rfl
        rw [hstep]
        by_cases hnext : i + 1 < distinctCount candidates
        · exact ⟨i + 1, hnext, rfl⟩
        · have hend : i + 1 = distinctCount candidates := by omega
          obtain ⟨j, hj, hback⟩ := exists_first_occurrence (hend ▸ hlt)
          exact ⟨j, hj, by rw [hend, hback]⟩
      · refine ⟨0, distinctCount_pos hne, ?_⟩
        rw [List.getElem?_eq_none (by omega)]
        rfl

/-- Exactly the candidates of the prefix are reached. -/
theorem exists_orbit_eq_some_iff (hne : candidates ≠ []) {value : Text} :
    (∃ k, orbit candidates k = some value) ↔
      value ∈ candidates.take (distinctCount candidates) := by
  constructor
  · intro h
    obtain ⟨k, hk⟩ := h
    obtain ⟨i, hi, heq⟩ := exists_orbit_eq hne k
    refine List.mem_of_getElem? (i := i) ?_
    rw [List.getElem?_take_of_lt hi, ← heq, hk]
  · intro hmem
    obtain ⟨i, hi, heq⟩ := List.mem_iff_getElem.mp hmem
    have hlt : i < distinctCount candidates := by
      rw [List.length_take] at hi
      omega
    refine ⟨i, ?_⟩
    rw [orbit_of_lt hlt, ← List.getElem?_take_of_lt hlt, List.getElem?_eq_getElem hi, heq]

/-- Along the prefix no value comes twice. -/
theorem orbit_inj_of_lt {i j : Nat} (hi : i < distinctCount candidates)
    (hj : j < distinctCount candidates) (heq : orbit candidates i = orbit candidates j) :
    i = j := by
  rw [orbit_of_lt hi, orbit_of_lt hj] at heq
  exact getElem?_inj_of_lt_distinctCount hi hj heq

/-- Without a repetition the orbit starts over at the end of the list. -/
theorem orbit_add_length (hne : candidates ≠ [])
    (hwhole : distinctCount candidates = candidates.length) (k : Nat) :
    orbit candidates (k + candidates.length) = orbit candidates k := by
  have hback : orbit candidates candidates.length = orbit candidates 0 := by
    rw [← hwhole, orbit_distinctCount hne, List.getElem?_eq_none (by omega)]
    rfl
  exact orbit_add_eq hback k

/-- With a repetition the orbit goes on from the first occurrence. -/
theorem orbit_add_sub (hlt : distinctCount candidates < candidates.length) {j : Nat}
    (hj : j < distinctCount candidates)
    (heq : candidates[j]? = candidates[distinctCount candidates]?) {k : Nat} (hk : j ≤ k) :
    orbit candidates (k + distinctCount candidates - j) = orbit candidates k := by
  have hne : candidates ≠ [] := List.ne_nil_of_length_pos (Nat.zero_lt_of_lt hlt)
  have hback : orbit candidates (distinctCount candidates) = orbit candidates j := by
    rw [orbit_distinctCount hne, orbit_of_lt hj, heq, List.getElem?_eq_getElem hlt]
    rfl
  calc orbit candidates (k + distinctCount candidates - j)
      = orbit candidates ((k - j) + distinctCount candidates) := by congr 1; omega
    _ = orbit candidates ((k - j) + j) := orbit_add_eq hback (k - j)
    _ = orbit candidates k := by rw [Nat.sub_add_cancel hk]

end Orbit

/-- **The orbit of toggling.** From the first candidate on, advancing visits the longest
prefix without a repetition in order. Then it starts over, if that is the whole list; if
not, it goes on from the first occurrence of the candidate behind the prefix. Either way
no shorter period would do, the candidates of the prefix are the only values that are ever
reached, and everything that is no candidate leads to the first one. -/
theorem orbit_eventually_periodic {candidates : List Text} (hne : candidates ≠ []) :
    ∃ x : Nat → Text, candidates[0]? = some (x 0) ∧
      (∀ k, nextValue? candidates (some (x k)) = some (x (k + 1))) ∧
      (∀ k < distinctCount candidates, candidates[k]? = some (x k)) ∧
      (distinctCount candidates = candidates.length →
        (∀ k, x (k + candidates.length) = x k) ∧
        ∀ d, 0 < d → d < candidates.length → x d ≠ x 0) ∧
      (distinctCount candidates < candidates.length →
        ∃ j < distinctCount candidates,
          candidates[j]? = candidates[distinctCount candidates]? ∧
          (∀ i < distinctCount candidates,
            candidates[i]? = candidates[distinctCount candidates]? → i = j) ∧
          (∀ k, j ≤ k → x (k + distinctCount candidates - j) = x k) ∧
          ∀ d, 0 < d → d < distinctCount candidates - j → x (j + d) ≠ x j) ∧
      (∀ c, (∃ k, x k = c) ↔ c ∈ candidates.take (distinctCount candidates)) ∧
      (∀ value, value ∉ candidates → nextValue? candidates (some value) = some (x 0)) ∧
      nextValue? candidates none = some (x 0) := by
  have hvalue (k : Nat) : ∃ value, orbit candidates k = some value := by
    obtain ⟨i, hi, hk⟩ := exists_orbit_eq hne k
    exact ⟨_, hk.trans (List.getElem?_eq_getElem (Nat.lt_of_lt_of_le hi distinctCount_le))⟩
  choose x hx using hvalue
  have hsame {i j : Nat} : x i = x j ↔ orbit candidates i = orbit candidates j := by
    rw [hx, hx, Option.some.injEq]
  have hfirst : candidates[0]? = some (x 0) := hx 0
  refine ⟨x, hfirst, ?_, ?_, ?_, ?_, ?_, ?_, ?_⟩
  · intro k
    rw [← hx k, ← hx (k + 1), orbit_succ]
  · intro k hk
    rw [← hx k, orbit_of_lt hk]
  · intro hwhole
    refine ⟨fun k => hsame.mpr (orbit_add_length hne hwhole k), ?_⟩
    intro d hd hlt heq
    have hzero := orbit_inj_of_lt (by omega) (by omega) (hsame.mp heq)
    omega
  · intro hlt
    obtain ⟨j, hj, hoccurs⟩ := exists_first_occurrence hlt
    refine ⟨j, hj, hoccurs, ?_, fun k hk => hsame.mpr (orbit_add_sub hlt hj hoccurs hk), ?_⟩
    · intro i hi heq
      exact getElem?_inj_of_lt_distinctCount hi hj (heq.trans hoccurs.symm)
    · intro d hd hlt' heq
      have hzero := orbit_inj_of_lt (by omega) hj (hsame.mp heq)
      omega
  · intro c
    rw [← exists_orbit_eq_some_iff hne]
    simp only [hx, Option.some.injEq]
  · intro value hnot
    rw [nextValue?_of_notMem hnot, hfirst]
  · rw [nextValue?, Option.bind_none, List.head?_eq_getElem?, hfirst]

/-- The second candidate occurs again in the fourth place, so the last one is never reached. -/
theorem orbit_eventually_periodic_of_repetition :
    let candidates := ["a".toList, "b".toList, "c".toList, "b".toList, "d".toList]
    candidates ≠ [] ∧ distinctCount candidates = 3 ∧
    ∃ x : Nat → Text, x 0 = "a".toList ∧
      (∀ k, nextValue? candidates (some (x k)) = some (x (k + 1))) ∧
      (∀ k, 1 ≤ k → x (k + 2) = x k) ∧ (∃ k, x k = "c".toList) ∧ ¬ ∃ k, x k = "d".toList := by
  intro candidates
  have hne : candidates ≠ [] := by decide
  have hcount : distinctCount candidates = 3 := by decide
  obtain ⟨x, hfirst, hstep, -, -, hrepeats, hreached, -⟩ := orbit_eventually_periodic hne
  rw [hcount] at hrepeats hreached
  obtain ⟨j, -, -, hunique, hperiod, -⟩ := hrepeats (by decide)
  obtain rfl : 1 = j := hunique 1 (by decide) (by decide)
  refine ⟨hne, hcount, x, (Option.some.inj hfirst).symm, hstep, hperiod, ?_, ?_⟩
  · exact (hreached _).mpr (by decide)
  · intro hd
    exact absurd ((hreached _).mp hd) (by decide)

end InlineChoice
