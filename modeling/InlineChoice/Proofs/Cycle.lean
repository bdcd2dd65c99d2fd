import InlineChoice.Proofs.History
import Mathlib.Data.List.Nodup
import Mathlib.Logic.Function.Iterate

/-!
# Cycles of candidates

Advancing runs through the candidates in order and comes back. On values this is
arithmetic of positions: with distinct candidates, the value after the one at
position `p` is the one at `p + 1`, modulo their number
(`iterate_nextValue?_getElem`), and a value that is no candidate enters the cycle
at its first position (`iterate_nextValue?_of_notMem`).

On lines it is the same arithmetic, because an advance is a step of a history
(`Frame.Reads.iterate_advance`): every line that advancing leaves is the frame of
the first line around the value of that position. `advance_cycle` draws the
consequences for the text, down to the byte.
-/

namespace InlineChoice

/-! ## The cycle of values -/

/-- Among distinct candidates, the first occurrence of a candidate is its only one. -/
theorem idxOf?_getElem {candidates : List Text} (hnodup : candidates.Nodup) {p : Nat}
    (hp : p < candidates.length) : candidates.idxOf? candidates[p] = some p := by
  refine List.idxOf?_eq_some_iff.mpr ⟨hp, rfl, ?_⟩
  intro j hj heq
  have hpos := (List.Nodup.getElem_inj_iff hnodup).mp heq
  omega

/-- The candidate at a position is followed by the one at the next position. -/
theorem nextValue?_getElem {candidates : List Text} (hnodup : candidates.Nodup) {p : Nat}
    (hp : p < candidates.length) :
    nextValue? candidates (some candidates[p]) = candidates[(p + 1) % candidates.length]? := by
  simp only [nextValue?, Option.bind_some, idxOf?_getElem hnodup hp]
  by_cases hlast : p + 1 < candidates.length
  · rw [Nat.mod_eq_of_lt hlast, List.getElem?_eq_getElem hlast]
    rfl
  · have hwrap : p + 1 = candidates.length := by omega
    rw [hwrap, Nat.mod_self, List.getElem?_eq_none (Nat.le_refl _), List.head?_eq_getElem?]
    rfl

/-- What is no candidate is followed by the first candidate. -/
theorem nextValue?_of_notMem {candidates : List Text} {value : Text}
    (h : value ∉ candidates) : nextValue? candidates (some value) = candidates[0]? := by
  rw [nextValue?, Option.bind_some, List.idxOf?_eq_none_iff.mpr h, List.head?_eq_getElem?]

theorem iterate_nextValue?_getElem {candidates : List Text} (hnodup : candidates.Nodup)
    {p : Nat} (hp : p < candidates.length) (k : Nat) :
    (nextValue? candidates)^[k] (some candidates[p]) =
      candidates[(p + k) % candidates.length]? := by
  induction k with
  | zero => rw [Function.iterate_zero_apply, Nat.add_zero, Nat.mod_eq_of_lt hp,
      List.getElem?_eq_getElem hp]
  | succ k ih =>
      have hpos : (p + k) % candidates.length < candidates.length :=
        Nat.mod_lt _ (Nat.zero_lt_of_lt hp)
      rw [Function.iterate_succ_apply', ih, List.getElem?_eq_getElem hpos,
        nextValue?_getElem hnodup hpos, Nat.mod_add_mod, Nat.add_assoc]

theorem iterate_nextValue?_of_notMem {candidates : List Text} (hnodup : candidates.Nodup)
    (hne : candidates ≠ []) {value : Text} (h : value ∉ candidates) (k : Nat) :
    (nextValue? candidates)^[k + 1] (some value) = candidates[k % candidates.length]? := by
  have hpos : 0 < candidates.length := List.length_pos_of_ne_nil hne
  rw [Function.iterate_succ_apply, nextValue?_of_notMem h, List.getElem?_eq_getElem hpos,
    iterate_nextValue?_getElem hnodup hpos, Nat.zero_add]

/-- No part of a round leads back to the candidate it started from. -/
theorem iterate_nextValue?_ne {candidates : List Text} (hnodup : candidates.Nodup)
    {p k : Nat} (hp : p < candidates.length) (hk : 0 < k) (hlt : k < candidates.length) :
    (nextValue? candidates)^[k] (some candidates[p]) ≠ some candidates[p] := by
  rw [iterate_nextValue?_getElem hnodup hp, ← List.getElem?_eq_getElem hp]
  intro heq
  have hpos : (p + k) % candidates.length < candidates.length :=
    Nat.mod_lt _ (Nat.zero_lt_of_lt hp)
  rw [List.getElem?_eq_getElem hpos, List.getElem?_eq_getElem hp, Option.some.injEq,
    List.Nodup.getElem_inj_iff hnodup] at heq
  by_cases hwrap : p + k < candidates.length
  · rw [Nat.mod_eq_of_lt hwrap] at heq
    omega
  · have hback : (p + k) % candidates.length = p + k - candidates.length := by
      rw [Nat.mod_eq_sub_mod (Nat.le_of_not_lt hwrap), Nat.mod_eq_of_lt (by omega)]
    omega

/-- Once in the cycle, as many steps as there are candidates change nothing. -/
theorem iterate_nextValue?_length_succ {candidates : List Text} (hnodup : candidates.Nodup)
    (hne : candidates ≠ []) (value : Text) :
    (nextValue? candidates)^[candidates.length + 1] (some value) =
      nextValue? candidates (some value) := by
  by_cases hmem : value ∈ candidates
  · obtain ⟨p, hp, rfl⟩ := List.mem_iff_getElem.mp hmem
    rw [iterate_nextValue?_getElem hnodup hp, nextValue?_getElem hnodup hp,
      Nat.add_left_comm, Nat.add_mod_left]
  · rw [iterate_nextValue?_of_notMem hnodup hne hmem, nextValue?_of_notMem hmem, Nat.mod_self]

/-! ## The cycle of lines -/

theorem Line.run_replicate_advance [PatternEngine] (token : Text) (k : Nat) (line : Text) :
    run token (List.replicate k .advance) line = (advance token)^[k] line := by
  induction k generalizing line with
  | zero => rfl
  | succ k ih =>
      rw [List.replicate_succ, run_cons, ih, Function.iterate_succ_apply]
      rfl

theorem Line.runValue?_replicate_advance (candidates : List Text) (k : Nat)
    (value : Option Text) :
    runValue? candidates (List.replicate k .advance) value =
      (nextValue? candidates)^[k] value := by
  induction k generalizing value with
  | zero => rfl
  | succ k ih =>
      rw [List.replicate_succ, runValue?_cons, ih, Function.iterate_succ_apply]
      rfl

/-- A frame shows which value was written into it. -/
theorem Frame.write_injective {frame : Frame} {v w : Text}
    (h : frame.write v = frame.write w) : v = w := by
  simpa [Frame.write] using h

/-- A line is written in its frame if its value stands between single spaces. -/
theorem Choice.Parts.eq_write {a : Choice} {asg : Assignment} {line before after tail : Text}
    (parts : a.Parts asg line before after tail)
    (hspaced : line.takeBytes? a.markerRange.start =
      some (asg.target ++ [' '] ++ asg.value ++ [' '])) :
    line = Frame.write ⟨asg.target, a.marker, tail, a.candidates⟩ asg.value := by
  have hhead : asg.target ++ before ++ asg.value ++ after =
      asg.target ++ [' '] ++ asg.value ++ [' '] := by
    rw [parts.markerRange_eq, parts.line_eq, List.append_assoc _ a.marker,
      Text.takeBytes?_byteSize_append] at hspaced
    exact Option.some.inj hspaced
  rw [parts.line_eq, hhead]
  rfl

section Rounds

variable [PatternEngine] {frame : Frame} {token : CommentToken} {line w : Text}
  (h : frame.Reads token line w) (plain : Marker.PlainToken token.text)
  (hcand : ∀ c ∈ frame.candidates, ¬ Marker.tag <:+: c)

include h plain hcand

/-- Advancing again and again writes the values of the cycle into the frame. -/
theorem Frame.Reads.iterate_advance (k : Nat) :
    ∃ w', (nextValue? frame.candidates)^[k] (some w) = some w' ∧
      frame.Reads token ((Line.advance token.text)^[k] line) w' ∧
      (0 < k → (Line.advance token.text)^[k] line = frame.write w') := by
  have hsteps : ∀ step ∈ List.replicate k Line.Step.advance, step.TagFree := by
    intro step hstep
    rw [List.eq_of_mem_replicate hstep]
    trivial
  obtain ⟨w', hvalue, hreads, hwrite⟩ := Line.run_simulates plain hcand hsteps h
  rw [Line.runValue?_replicate_advance] at hvalue
  rw [Line.run_replicate_advance] at hreads hwrite
  refine ⟨w', hvalue, hreads, fun hk => hwrite ?_⟩
  rw [ne_eq, List.replicate_eq_nil_iff]
  omega

variable (hnodup : frame.candidates.Nodup)

include hnodup

/-- From the first advance on, one round leads back to the same text. -/
theorem Frame.Reads.advance_round :
    (Line.advance token.text)^[frame.candidates.length + 1] line =
      Line.advance token.text line := by
  obtain ⟨c, hvalue, -, hwrite⟩ :=
    h.iterate_advance plain hcand (frame.candidates.length + 1)
  obtain ⟨next, -, hnext, hadvance⟩ := h.advance_eq
  rw [iterate_nextValue?_length_succ hnodup h.candidates_ne_nil, hnext] at hvalue
  rw [hwrite (Nat.succ_pos _), hadvance, Option.some.inj hvalue]

variable (hline : line = frame.write w) (hmem : w ∈ frame.candidates)

include hline hmem

/-- Where a candidate is written in the frame, one round leads back to the line. -/
theorem Frame.Reads.advance_round_of_mem :
    (Line.advance token.text)^[frame.candidates.length] line = line := by
  obtain ⟨p, hp, rfl⟩ := List.mem_iff_getElem.mp hmem
  obtain ⟨c, hvalue, -, hwrite⟩ := h.iterate_advance plain hcand frame.candidates.length
  rw [iterate_nextValue?_getElem hnodup hp, Nat.add_mod_right, Nat.mod_eq_of_lt hp,
    List.getElem?_eq_getElem hp] at hvalue
  rw [hwrite (Nat.zero_lt_of_lt hp), ← Option.some.inj hvalue, ← hline]

/-- No part of a round leads back to it. -/
theorem Frame.Reads.advance_ne_of_mem {k : Nat} (hk : 0 < k)
    (hlt : k < frame.candidates.length) : (Line.advance token.text)^[k] line ≠ line := by
  intro heq
  obtain ⟨p, hp, rfl⟩ := List.mem_iff_getElem.mp hmem
  obtain ⟨c, hvalue, -, hwrite⟩ := h.iterate_advance plain hcand k
  obtain rfl : c = frame.candidates[p] := by
    apply Frame.write_injective
    rw [← hwrite hk, heq, ← hline]
  exact iterate_nextValue?_ne hnodup hp hk hlt hvalue

end Rounds

/-- **The cycle closes.** Advancing a line with distinct candidates visits them in
order, from the position of its value or else from the first one. One round leads
back to the same text from the first advance on, and from the very beginning
where a candidate already stands between single spaces, but no part of a round
does. -/
theorem advance_cycle [PatternEngine] {token line : Text} {a : Choice} {asg : Assignment}
    (plain : Marker.PlainToken token) (hparse : Choice.parseWith? token line = some a)
    (hasg : a.assignment = some asg) (hcand : ∀ c ∈ a.candidates, ¬ Marker.tag <:+: c)
    (hnodup : a.candidates.Nodup) :
    (∀ k, 1 ≤ k → ∃ b c, Choice.parseWith? token ((Line.advance token)^[k] line) = some b ∧
      b.value? = some c ∧
      (∀ p, a.candidates[p]? = some asg.value →
        a.candidates[(p + k) % a.candidates.length]? = some c) ∧
      (asg.value ∉ a.candidates →
        a.candidates[(k - 1) % a.candidates.length]? = some c)) ∧
    (Line.advance token)^[a.candidates.length + 1] line = Line.advance token line ∧
    (line.takeBytes? a.markerRange.start = some (asg.target ++ [' '] ++ asg.value ++ [' ']) →
      asg.value ∈ a.candidates →
      (Line.advance token)^[a.candidates.length] line = line ∧
        ∀ k, 0 < k → k < a.candidates.length → (Line.advance token)^[k] line ≠ line) := by
  obtain ⟨token, before, after, tail, rfl, parts, hreads⟩ := Frame.exists_reads hparse hasg
  refine ⟨fun k hk => ?_, hreads.advance_round plain hcand hnodup, fun hspaced hmem => ?_⟩
  · obtain ⟨c, hvalue, hreads', -⟩ := hreads.iterate_advance plain hcand k
    obtain ⟨b, hparse', -, hvalue', -⟩ := hreads'.withValue?_eq
    refine ⟨b, c, hparse', hvalue', fun p hp => ?_, fun hnot => ?_⟩
    · obtain ⟨hlt, hget⟩ := List.getElem?_eq_some_iff.mp hp
      rw [← hvalue, ← hget, iterate_nextValue?_getElem hnodup hlt]
    · obtain ⟨j, rfl⟩ : ∃ j, k = j + 1 := ⟨k - 1, by omega⟩
      rw [← hvalue, iterate_nextValue?_of_notMem hnodup hreads.candidates_ne_nil hnot,
        Nat.add_sub_cancel]
  · have hline := parts.eq_write hspaced
    exact ⟨hreads.advance_round_of_mem plain hcand hnodup hline hmem,
      fun k hk hlt => hreads.advance_ne_of_mem plain hcand hnodup hline hmem hk hlt⟩

section

open scoped PatternEngine

/-- Three candidates, the value at the last position, and text behind the list. -/
theorem advance_cycle_three :
    (∀ k, 1 ≤ k → ∃ b c,
      Choice.parseWith? "#".toList
        ((Line.advance "#".toList)^[k] "é = c # [CB]: a|b | |c||d".toList) = some b ∧
      b.value? = some c ∧
      (∀ p, ["a".toList, "b".toList, "c".toList][p]? = some "c".toList →
        ["a".toList, "b".toList, "c".toList][(p + k) % 3]? = some c) ∧
      ("c".toList ∉ ["a".toList, "b".toList, "c".toList] →
        ["a".toList, "b".toList, "c".toList][(k - 1) % 3]? = some c)) ∧
    (Line.advance "#".toList)^[3 + 1] "é = c # [CB]: a|b | |c||d".toList =
      Line.advance "#".toList "é = c # [CB]: a|b | |c||d".toList ∧
    ((Line.advance "#".toList)^[3] "é = c # [CB]: a|b | |c||d".toList =
        "é = c # [CB]: a|b | |c||d".toList ∧
      ∀ k, 0 < k → k < 3 →
        (Line.advance "#".toList)^[k] "é = c # [CB]: a|b | |c||d".toList ≠
          "é = c # [CB]: a|b | |c||d".toList) := by
  have plain : Marker.PlainToken "#".toList := by decide
  have hparse : Choice.parseWith? "#".toList "é = c # [CB]: a|b | |c||d".toList =
      some ⟨⟨"#".toList, by decide⟩, some ⟨"é =".toList, "c".toList, 5⟩,
        ["a".toList, "b".toList, "c".toList], "# [CB]: a|b | |c".toList, 7⟩ := rfl
  obtain ⟨hvalues, hround, hback⟩ := advance_cycle plain hparse rfl (by decide) (by decide)
  exact ⟨hvalues, hround, hback rfl (by decide)⟩

end

end InlineChoice
