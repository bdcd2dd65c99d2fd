import InlineChoice.Glyph
import InlineChoice.Proofs.Cycle
import InlineChoice.Proofs.Scan

/-!
# The rendered state after a toggle

An annotation is shown in three ways, by the state of its box, by the index in its
carousel and by its glyph. All three are functions of the number of candidates and of the
position of the value among them (`Choice.boxState?_of_binary`,
`Choice.carouselIndex?_of_carousel`, `Glyph.ofChoice?_of_carousel`), and a value that is
no candidate has no position.

So it is enough to know what a toggle does to the position: it moves on by one, modulo the
number of candidates, or to the first candidate where there was none
(`idxOf?_nextValue?`). `advance_rendered` reads this off the line that a toggle leaves.
-/

namespace InlineChoice

/-! ## The position of the next candidate -/

/-- The position that advancing moves to, among a number of candidates. -/
def nextPosition (count : Nat) : Option Nat → Nat
  | some p => (p + 1) % count
  | none => 0

/-- The position of the next candidate is the next position. -/
theorem idxOf?_nextValue? {candidates : List Text} (hnodup : candidates.Nodup)
    (hne : candidates ≠ []) {value next : Text}
    (hnext : nextValue? candidates (some value) = some next) :
    candidates.idxOf? next =
      some (nextPosition candidates.length (candidates.idxOf? value)) := by
  have hpos : 0 < candidates.length := List.length_pos_of_ne_nil hne
  by_cases hmem : value ∈ candidates
  · obtain ⟨p, hp, rfl⟩ := List.mem_iff_getElem.mp hmem
    have hmod : (p + 1) % candidates.length < candidates.length := Nat.mod_lt _ hpos
    rw [nextValue?_getElem hnodup hp, List.getElem?_eq_getElem hmod] at hnext
    rw [idxOf?_getElem hnodup hp, ← Option.some.inj hnext, idxOf?_getElem hnodup hmod]
    rfl
  · rw [nextValue?_of_notMem hmem, List.getElem?_eq_getElem hpos] at hnext
    rw [List.idxOf?_eq_none_iff.mpr hmem, ← Option.some.inj hnext, idxOf?_getElem hnodup hpos]
    rfl

/-! ## What is shown of a position -/

/-- The other state of a check box. -/
def BoxState.opposite : BoxState → BoxState
  | checked => unchecked
  | unchecked => checked

/-- A check box is checked at the first of its two positions only. -/
def BoxState.ofPosition : Option Nat → BoxState
  | some 0 => checked
  | _ => unchecked

/-- Of two positions the next one shows the opposite state. -/
theorem BoxState.ofPosition_nextPosition (position : Option Nat) (h : ∀ p ∈ position, p < 2) :
    ofPosition (some (nextPosition 2 position)) = (ofPosition position).opposite := by
  cases position with
  | none => rfl
  | some p =>
      have hp : p < 2 := h p rfl
      obtain rfl | rfl : p = 0 ∨ p = 1 := by omega
      · rfl
      · rfl

namespace Choice

variable {a : Choice}

theorem position?_lt {p : Nat} (h : p ∈ a.position?) : p < a.candidates.length := by
  obtain ⟨value, -, hidx⟩ := Option.bind_eq_some_iff.mp h
  obtain ⟨hlt, -⟩ := List.idxOf?_eq_some_iff.mp hidx
  exact hlt

/-- The value stands at the first position if and only if it is the first candidate. -/
theorem position?_eq_zero_iff (hne : a.candidates ≠ []) :
    a.position? = some 0 ↔ a.value? = a.candidates.head? := by
  obtain ⟨first, others, hcand⟩ := List.exists_cons_of_ne_nil hne
  rw [position?, hcand]
  cases a.value? with
  | none => simp
  | some value =>
      simp only [Option.bind_eq_bind, Option.bind_some, List.head?_cons, Option.some.injEq]
      rw [List.idxOf?_cons]
      by_cases heq : first = value
      · simp [heq]
      · simp [heq, Ne.symm heq]

theorem shape_of_binary (h : a.candidates.length = 2) : a.shape = .binary := by
  obtain ⟨first, second, hcand⟩ := List.length_eq_two.mp h
  rw [shape, hcand]

theorem shape_of_carousel (h : 2 < a.candidates.length) : a.shape = .carousel := by
  rw [shape]
  split <;> simp_all

theorem shape_of_single (h : a.candidates.length = 1) : a.shape = .single := by
  obtain ⟨only, hcand⟩ := List.length_eq_one_iff.mp h
  rw [shape, hcand]

theorem boxState?_of_binary (h : a.candidates.length = 2) :
    a.boxState? = some (.ofPosition a.position?) := by
  have hne : a.candidates ≠ [] := by
    intro hnil
    simp [hnil] at h
  rw [boxState?, shape_of_binary h]
  by_cases hfirst : a.value? = a.candidates.head?
  · rw [(position?_eq_zero_iff hne).mpr hfirst]
    simp [hfirst, BoxState.ofPosition]
  · have hzero : a.position? ≠ some 0 := fun hzero =>
      hfirst ((position?_eq_zero_iff hne).mp hzero)
    simp only [if_neg hfirst, BoxState.ofPosition]

theorem boxState?_of_shape_ne (h : a.shape ≠ .binary) : a.boxState? = none := by
  rw [boxState?]
  split
  · next hbinary => exact absurd hbinary h
  · rfl

theorem carouselIndex?_of_carousel (h : 2 < a.candidates.length) :
    a.carouselIndex? = a.position? := by
  rw [carouselIndex?, shape_of_carousel h]

end Choice

/-! ## Glyphs -/

namespace Glyph

/-- The glyph of a check box. -/
def ofBoxState : BoxState → Glyph
  | .checked => .checked
  | .unchecked => .unchecked

/-- The sign of a glyph; the circled numbers follow each other. -/
def text : Glyph → Text
  | checked => ['☑']
  | unchecked => ['☐']
  | ordinal i => [Char.ofNat ('①'.toNat + i)]

/-- The style of a glyph; every sign is bold. -/
def style : Glyph → Terminal.Style
  | checked => (Terminal.Style.coloured .green).emboldened
  | unchecked => (Terminal.Style.coloured .brightBlack).emboldened
  | ordinal _ => (Terminal.Style.coloured .yellow).emboldened

/-- The table holds every glyph, with its sign and its style. -/
theorem lookup_registry (glyph : Glyph) :
    registry.lookup glyph = some (glyph.text, glyph.style) := by
  cases glyph with
  | checked => rfl
  | unchecked => rfl
  | ordinal i =>
      revert i
      decide

/-- What a listing shows of an annotation is the sign of its glyph. -/
theorem sign?_eq (a : Choice) :
    sign? a = (ofChoice? a).map fun glyph => (glyph.text, glyph.style) := by
  rw [sign?]
  cases ofChoice? a with
  | none => rfl
  | some glyph => exact lookup_registry glyph

variable {a : Choice}

theorem ofChoice?_of_binary (h : a.candidates.length = 2) :
    ofChoice? a = some (ofBoxState (.ofPosition a.position?)) := by
  rw [ofChoice?, Choice.boxState?_of_binary h]
  cases BoxState.ofPosition a.position? <;> rfl

theorem ofChoice?_of_carousel (h : 2 < a.candidates.length) :
    ofChoice? a = a.position?.bind fun i =>
      if h : i < circledCount then some (.ordinal ⟨i, h⟩) else none := by
  have hshape := Choice.shape_of_carousel h
  rw [ofChoice?, Choice.boxState?_of_shape_ne (by rw [hshape]; decide),
    Choice.carouselIndex?_of_carousel h]
  rfl

theorem ofChoice?_of_single (h : a.candidates.length = 1) : ofChoice? a = none := by
  have hshape := Choice.shape_of_single h
  rw [ofChoice?, Choice.boxState?_of_shape_ne (by rw [hshape]; decide),
    Choice.carouselIndex?, hshape]
  rfl

end Glyph

/-! ## A toggle -/

/-- A toggle of a frame with distinct candidates moves the position on. -/
theorem Frame.Reads.exists_advanced [PatternEngine]
    {frame : Frame} {token : CommentToken} {line w : Text}
    (h : frame.Reads token line w) (plain : Marker.PlainToken token.text)
    (hcand : ∀ c ∈ frame.candidates, ¬ Marker.tag <:+: c) (hnodup : frame.candidates.Nodup) :
    ∃ b, Choice.parseWith? token.text (Line.advance token.text line) = some b ∧
      b.candidates = frame.candidates ∧
      b.position? =
        some (nextPosition frame.candidates.length (frame.candidates.idxOf? w)) := by
  obtain ⟨next, hmem, hnext, hadvance⟩ := h.advance_eq
  have hreads := h.write plain (h.trim_candidate hmem) (hcand next hmem)
  obtain ⟨b, hparse, hcandidates, hvalue, -⟩ := hreads.withValue?_eq
  refine ⟨b, by rw [hadvance, hparse], hcandidates, ?_⟩
  rw [Choice.position?, hvalue, hcandidates]
  exact idxOf?_nextValue? hnodup h.candidates_ne_nil hnext

/-- **The rendered state follows a toggle.** The shape stays; of two candidates the box
changes to the opposite state, and of more the index moves on by one and comes round, or is
the first one where the value was no candidate. The glyph shows the new state, as far as
there are circled numbers, and a listing shows the sign of the glyph. -/
theorem advance_rendered [PatternEngine] {token line : Text} {a : Choice} {asg : Assignment}
    (plain : Marker.PlainToken token) (hparse : Choice.parseWith? token line = some a)
    (hasg : a.assignment = some asg) (hcand : ∀ c ∈ a.candidates, ¬ Marker.tag <:+: c)
    (hnodup : a.candidates.Nodup) :
    ∃ b, Choice.parseWith? token (Line.advance token line) = some b ∧ b.shape = a.shape ∧
      (a.candidates.length = 1 → Glyph.ofChoice? b = none) ∧
      (a.candidates.length = 2 → ∃ state, a.boxState? = some state ∧
        b.boxState? = some state.opposite ∧
        Glyph.ofChoice? b = some (.ofBoxState state.opposite)) ∧
      (2 < a.candidates.length → ∃ i, b.carouselIndex? = some i ∧
        (∀ p, a.carouselIndex? = some p → i = (p + 1) % a.candidates.length) ∧
        (a.carouselIndex? = none → i = 0) ∧
        (∀ h : i < circledCount, Glyph.ofChoice? b = some (.ordinal ⟨i, h⟩)) ∧
        (circledCount ≤ i → Glyph.ofChoice? b = none)) ∧
      (∀ glyph, Glyph.ofChoice? b = some glyph →
        Glyph.registry.lookup glyph = some (glyph.text, glyph.style)) ∧
      Glyph.sign? b = (Glyph.ofChoice? b).map fun glyph => (glyph.text, glyph.style) := by
  obtain ⟨t, before, after, tail, rfl, -, hreads⟩ := Frame.exists_reads hparse hasg
  obtain ⟨b, hparse', hcandidates, hposition⟩ := hreads.exists_advanced plain hcand hnodup
  have hlength : b.candidates.length = a.candidates.length := congrArg List.length hcandidates
  have hbefore : a.candidates.idxOf? asg.value = a.position? := by
    rw [Choice.position?, Choice.value?, hasg]
    rfl
  change b.position? = some (nextPosition a.candidates.length (a.candidates.idxOf? asg.value))
    at hposition
  rw [hbefore] at hposition
  refine ⟨b, hparse', Choice.shape_congr hcandidates, ?_, ?_, ?_, fun glyph _ =>
    Glyph.lookup_registry glyph, Glyph.sign?_eq b⟩
  · intro hsingle
    exact Glyph.ofChoice?_of_single (hlength.trans hsingle)
  · intro hbinary
    have hopposite : BoxState.ofPosition b.position? =
        (BoxState.ofPosition a.position?).opposite := by
      rw [hposition, hbinary]
      exact BoxState.ofPosition_nextPosition _ fun p hp => hbinary ▸ Choice.position?_lt hp
    refine ⟨_, Choice.boxState?_of_binary hbinary, ?_, ?_⟩
    · rw [Choice.boxState?_of_binary (hlength.trans hbinary), hopposite]
    · rw [Glyph.ofChoice?_of_binary (hlength.trans hbinary), hopposite]
  · intro hcarousel
    have hcarousel' : 2 < b.candidates.length := hlength ▸ hcarousel
    rw [Choice.carouselIndex?_of_carousel hcarousel, Choice.carouselIndex?_of_carousel hcarousel',
      Glyph.ofChoice?_of_carousel hcarousel', hposition]
    refine ⟨_, rfl, ?_, ?_, fun h => dif_pos h, fun h => dif_neg (Nat.not_lt.mpr h)⟩
    · intro p hp
      rw [hp]
      rfl
    · intro hnone
      rw [hnone]
      rfl

section

open scoped PatternEngine

/-- An empty value in front of three candidates and of text behind the list. -/
theorem advance_rendered_empty_value :
    ∃ b, Choice.parseWith? "//".toList (Line.advance "//".toList "é ==// [CB]: a| b|c ||c".toList) =
        some b ∧
      b.shape = .carousel ∧ b.carouselIndex? = some 0 ∧
      Glyph.ofChoice? b = some (.ordinal ⟨0, by decide⟩) ∧
      Glyph.registry.lookup (.ordinal ⟨0, by decide⟩) =
        some (['①'], ⟨some .bold, some .yellow⟩) := by
  have plain : Marker.PlainToken "//".toList := by decide
  have hparse : Choice.parseWith? "//".toList "é ==// [CB]: a| b|c ||c".toList =
      some ⟨⟨"//".toList, by decide⟩, some ⟨"é ==".toList, [], 5⟩,
        ["a".toList, "b".toList, "c".toList], "// [CB]: a| b|c ".toList, 5⟩ := rfl
  obtain ⟨b, hparse', hshape, -, -, hcarousel, hsign, -⟩ :=
    advance_rendered plain hparse rfl (by decide) (by decide)
  obtain ⟨i, hindex, -, hnone, hglyph, -⟩ := hcarousel (by decide)
  obtain rfl : i = 0 := hnone rfl
  have hfirst : Glyph.ofChoice? b = some (.ordinal ⟨0, by decide⟩) := hglyph (by decide)
  exact ⟨b, hparse', hshape, hindex, hfirst, hsign _ hfirst⟩

end

end InlineChoice
