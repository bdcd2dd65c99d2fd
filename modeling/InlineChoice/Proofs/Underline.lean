import InlineChoice.Proofs.Excerpt

/-!
# The carets under a value

A report indents the carets of an issue by the display width of the text in front of the
value, but it writes one caret for each character of the value. Both are columns only for
values whose characters take one column each: a wide character is underlined by half, and
a combining mark has a caret under the next column.

`Report.Underlined` says what a reader sees of the carets, on a terminal with or without
colours: what is painted shows as the same rows between escape sequences
(`Report.exists_rows_of_excerpt`). `Checking.value_underlined` compares the carets with the
columns of the value, for a check that does not break off in front of them.
-/

namespace InlineChoice

/-! ## Painted texts -/

namespace Terminal

/-- A written text shows as what is left of it without some sequences that start or end a
style. -/
inductive Shows : Text → Text → Prop
  | nil : Shows [] []
  | char (c : Char) {written shown : Text} : Shows written shown →
      Shows (c :: written) (c :: shown)
  | start (style : Style) {written shown : Text} : Shows written shown →
      Shows (escape style.codes ++ written) shown
  | stop {written shown : Text} : Shows written shown → Shows (reset ++ written) shown

namespace Shows

theorem refl (t : Text) : Shows t t := by
  induction t with
  | nil => exact .nil
  | cons c t ih => exact .char c ih

theorem append {written written' shown shown' : Text} (h : Shows written shown)
    (h' : Shows written' shown') : Shows (written ++ written') (shown ++ shown') := by
  induction h with
  | nil => exact h'
  | char c _ ih => exact .char c ih
  | start style _ ih =>
      rw [List.append_assoc]
      exact .start style ih
  | stop _ ih =>
      rw [List.append_assoc]
      exact .stop ih

/-- The sequences hold no caret. -/
theorem count_caret {written shown : Text} (h : Shows written shown) :
    written.count '^' = shown.count '^' := by
  have hstart (style : Style) : (escape style.codes).count '^' = 0 := by
    obtain ⟨weight, colour⟩ := style
    rcases weight with - | - | - <;> rcases colour with - | - | - | - | - | - | - <;> rfl
  induction h with
  | nil => rfl
  | char c _ ih => rw [List.count_cons, List.count_cons, ih]
  | start style _ ih => rw [List.count_append, hstart, ih, Nat.zero_add]
  | stop _ ih =>
      rw [List.count_append, ih]
      exact Nat.zero_add _

end Shows

/-- Paint is not seen, if a text holds no escape sequences of its own. -/
theorem shows_paint (colours : Bool) (style : Style) {t : Text} (h : '\x1b' ∉ t) :
    Shows (paint colours style t) t := by
  unfold paint
  split
  · rw [restart_of_notMem h, List.append_assoc]
    refine .start style ?_
    have hstop : Shows (t ++ (reset ++ [])) (t ++ []) := (Shows.refl t).append (.stop .nil)
    rwa [List.append_nil, List.append_nil] at hstop
  · exact .refl t

end Terminal

/-! ## Underlined places -/

namespace Report

open Terminal (Shows padStart)

/-- A line of source stands in an output, and right under it a row of carets, indented by some
columns. In front of both stand margins of one width. -/
def Underlined (output source : Text) (indent carets : Nat) : Prop :=
  ∃ front back sourceRow caretRow number margin : Text,
    output = front ++ line sourceRow ++ line caretRow ++ back ∧
    front.getLast? = some '\n' ∧
    Shows sourceRow (number ++ source) ∧
    Shows caretRow (margin ++ List.replicate indent ' ' ++ List.replicate carets '^') ∧
    Unicode.displayWidth number = Unicode.displayWidth margin ∧ '^' ∉ margin

/-- All the carets are in the output. -/
theorem Underlined.le_count {output source : Text} {indent carets : Nat}
    (h : Underlined output source indent carets) : carets ≤ output.count '^' := by
  obtain ⟨front, back, sourceRow, caretRow, number, margin, rfl, -, -, hcaret, -, -⟩ := h
  have hrow : carets ≤ caretRow.count '^' := by
    rw [hcaret.count_caret, List.count_append, List.count_replicate_self]
    exact Nat.le_add_left _ _
  simp only [line, List.count_append]
  omega

/-- Whether in colours or not, an excerpt shows as its rows. -/
theorem exists_rows_of_excerpt (colours : Bool) (gutter : Nat) (issue : Issue)
    (place : SourcePlace) : ∃ top source caret : Text,
      excerpt colours gutter issue place = line top ++ line source ++ line caret ∧
      Shows top (rowsOf gutter issue place).top ∧
      Shows source (rowsOf gutter issue place).source ∧
      Shows caret (rowsOf gutter issue place).caret := by
  have hbar : Shows (bar colours) ['|'] := Terminal.shows_paint _ _ (by decide)
  have hnumber : '\x1b' ∉ padStart gutter (Text.ofNat place.line) :=
    notMem_padStart gutter (fun c hc => Text.isDigit_of_mem_ofNat hc) (by decide) (by decide)
  have hcarets : '\x1b' ∉ List.replicate issue.caretCount '^' := by
    intro hmem
    exact absurd (List.eq_of_mem_replicate hmem) (by decide)
  have hmargin : Shows (padStart gutter [] ++ [' '] ++ bar colours)
      (padStart gutter [] ++ [' '] ++ ['|']) := (Shows.refl _).append hbar
  have hsource := ((((Terminal.shows_paint colours (.coloured .blue) hnumber).append
    (.refl [' '])).append hbar).append (.refl [' '])).append (.refl place.source)
  have hcaret := ((hmargin.append (.refl [' '])).append (.refl (padStart
    (Unicode.displayWidth (place.source.take (place.column - 1))) []))).append
    (Terminal.shows_paint colours (.coloured (severityColour issue.severity)) hcarets)
  refine ⟨_, _, _, rfl, ?_, ?_, ?_⟩
  · simpa [rowsOf] using hmargin
  · simpa [rowsOf] using hsource
  · simpa [rowsOf, indent] using hcaret

/-- **Every place is underlined**, in the report of every list that holds its issue. -/
theorem underlined_of_mem (colours : Bool) {issues : List Issue} {issue : Issue}
    {place : SourcePlace} (hmem : issue ∈ issues) (hplace : issue.place? = some place) :
    Underlined (render colours issues) place.source
      (Unicode.displayWidth (place.source.take (place.column - 1))) issue.caretCount := by
  have hsorted := (Issue.sort_perm issues).mem_iff.mpr hmem
  obtain ⟨front, back, hreport, -⟩ := exists_excerpt colours hmem hplace
  have hwide : (Text.ofNat place.line).length ≤ gutterWidth (Issue.sort issues) :=
    (isGreatest_gutterWidth hsorted hplace).2 ⟨issue, hsorted, place, hplace, rfl⟩
  generalize gutterWidth (Issue.sort issues) = gutter at hreport hwide
  obtain ⟨top, source, caret, hexcerpt, -, hsource, hcaret⟩ :=
    exists_rows_of_excerpt colours gutter issue place
  have hnone : ∀ c ∈ ([] : Text), c.isDigit = true := List.forall_mem_nil _
  have hmargin (t : Text) (hdigits : ∀ c ∈ t, c.isDigit = true) (hlength : t.length ≤ gutter) :
      Unicode.displayWidth (padStart gutter t ++ " | ".toList) = gutter + 3 := by
    rw [Unicode.displayWidth_of_narrow (Text.narrow_append.mpr
      ⟨narrow_padStart gutter hdigits, Text.narrow_bar⟩), List.length_append,
      Terminal.length_padStart hlength]
    rfl
  have hfree : '^' ∉ padStart gutter [] ++ " | ".toList := by
    have hblank : '^' ∉ padStart gutter [] :=
      notMem_padStart gutter hnone (by decide) (by decide)
    simp [hblank]
  refine ⟨front ++ line top, back, source, caret,
    padStart gutter (Text.ofNat place.line) ++ " | ".toList, padStart gutter [] ++ " | ".toList,
    ?_, ?_, hsource, ?_, ?_, hfree⟩
  · rw [hreport, hexcerpt]
    simp only [List.append_assoc]
  · rw [line, ← List.append_assoc, List.getLast?_concat]
  · simpa [rowsOf, padStart] using hcaret
  · rw [hmargin _ (fun c hc => Text.isDigit_of_mem_ofNat hc) hwide,
      hmargin [] hnone (Nat.zero_le _)]

end Report

/-! ## Values -/

namespace Checking

open Unicode (displayWidth)
open Unicode.DisplayWidth (Solitary charWidth)

/-- **The carets count the characters of a value.** Where the configuration loads and no issue
is out of reach, the report of a check underlines each value that is not valid, on any
terminal: the carets stand under
the source line, indented by the display width of the text in front of the value, and there
are as many of them as the value has characters. If the characters of the value melt with
nothing, the value takes the sum of their columns, in the line as on its own; so the carets
span it if each character takes one column. -/
theorem value_underlined [PatternEngine] {env : Environment} {config : Config}
    {place? : Option Location}
    (request : CheckRequest)
    (hconfig : Config.load env.tree env.directory = .ok (config, place?))
    {path : Text} (hpath : path ∈ request.files) {found : AnnotatedLine}
    (hfound : found ∈ Listing.scanned env request.settings config path)
    (hinvalid : found.choice.isValid = false)
    (hreach : ∀ issue ∈ findings env request, ¬ issue.OutOfReach) :
    let output := ((Command.check request).run env).output
    ∃ asg front back, found.choice.assignment = some asg ∧ asg.value ∉ found.choice.candidates ∧
      found.text.takeBytes? asg.valueStart = some front ∧
      found.text = front ++ (asg.value ++ back) ∧
      Report.Underlined output found.text (displayWidth front) asg.value.length ∧
      ((∀ c ∈ asg.value, Solitary c) →
        displayWidth asg.value = (asg.value.map charWidth).sum ∧
        displayWidth (front ++ asg.value) = displayWidth front + displayWidth asg.value) ∧
      ((∀ c ∈ asg.value, Solitary c ∧ charWidth c = 1) →
        Report.Underlined output found.text (displayWidth front) (displayWidth asg.value)) := by
  intro output
  obtain ⟨place, text, hread, hline, hparse⟩ := Listing.mem_scanned_iff.mp hfound
  obtain ⟨argument, hasked⟩ := List.mem_iff_getElem?.mp hpath
  have hmismatched := (Choice.isValid_eq_false_iff hparse).mp hinvalid
  obtain ⟨issue, hdescribes⟩ := Line.exists_describes hmismatched path found.index
  have hmem : issue ∈ findings env request := (mem_findings_iff request hconfig).mpr
    ⟨.line argument found.index, path, place, text, found.text, hasked, hread, hline, hdescribes⟩
  obtain ⟨-, houtput⟩ := run_of_inReach request hconfig hreach
  rw [if_neg (List.ne_nil_of_mem hmem)] at houtput
  obtain ⟨asg, front, back, hasg, hne, hforeign, hfront, htext, rfl⟩ :=
    hdescribes.exists_cut hparse
  have hunderlined : Report.Underlined output found.text (displayWidth front)
      asg.value.length := by
    have hshown := Report.underlined_of_mem env.colours hmem rfl
    have hextent : max asg.value.length 1 = asg.value.length :=
      Nat.max_eq_left (List.length_pos_of_ne_nil hne)
    have hcut : found.text.take (front.length + 1 - 1) = front := by
      rw [htext, Nat.add_sub_cancel, List.take_left]
    simp only [Issue.caretCount, hextent, hcut] at hshown
    rwa [← houtput] at hshown
  refine ⟨asg, front, back, hasg, hforeign, hfront, htext, hunderlined, ?_, ?_⟩
  · intro hsolitary
    refine ⟨Unicode.displayWidth_of_solitary hsolitary, Unicode.displayWidth_append front ?_⟩
    rw [Unicode.DisplayWidth.measure_of_solitary hsolitary]
  · intro hones
    rwa [Unicode.displayWidth_eq_length hones]

/-- An ideograph takes two columns. -/
theorem displayWidth_ideograph : displayWidth ['漢'] = 2 := by
  have hemoji : Unicode.BinaryProperty.emojiPresentation.contains '漢' = false := by
    rw [Unicode.BinaryProperty.emojiPresentation, Unicode.RangeSet.contains_ofLines]
    generalize hruns : Unicode.runsBelow '漢'.toNat _ = n
    obtain rfl : 66 = n := by
      rw [← hruns]
      simp only [Unicode.words, List.flatMap_cons, List.flatMap_nil]
      repeat rw [String.toList_ofList]
      decide +kernel
    rfl
  have hsolitary : Solitary '漢' := by
    unfold Solitary
    rw [Unicode.DisplayWidth.step_nothing, if_neg (by decide), Unicode.DisplayWidth.alone, hemoji]
    rfl
  have hwidth : charWidth '漢' = 2 := by
    rw [charWidth, Unicode.DisplayWidth.table, Unicode.RunTable.value_ofLines]
    simp only [Unicode.words, List.flatMap_cons, List.flatMap_nil]
    repeat rw [String.toList_ofList]
    decide +kernel
  rw [Unicode.displayWidth_of_solitary fun c hc => List.mem_singleton.mp hc ▸ hsolitary]
  rw [List.map_singleton, List.sum_singleton, hwidth]

section

open scoped PatternEngine

/-- A wide character in front of a value with an accent, on a terminal with colours. -/
theorem value_underlined_behind_ideograph :
    let env : Environment :=
      { tree := .ofEntries [(["w".toList, "a.py".toList],
          .file (some "ok = 1 # [CB]: 1|0\n漢 = né # [CB]: a|b\n".toList))]
        directory := ["w".toList]
        colours := true }
    let request : CheckRequest := { files := ["a.py".toList], settings := ⟨none, false⟩ }
    Report.Underlined ((Command.check request).run env).output "漢 = né # [CB]: a|b".toList 5 2 ∧
      displayWidth "né".toList = 2 ∧ displayWidth "漢 = né".toList = 7 := by
  intro env request
  let found : AnnotatedLine :=
    { index := 1
      text := "漢 = né # [CB]: a|b".toList
      choice := ⟨⟨"#".toList, by decide⟩, some ⟨"漢 =".toList, "né".toList, 6⟩,
        ["a".toList, "b".toList], "# [CB]: a|b".toList, 10⟩ }
  have hconfig : Config.load env.tree env.directory = .ok (.default, none) := rfl
  have hfound : found ∈ Listing.scanned env request.settings .default "a.py".toList :=
    Listing.mem_scanned_iff.mpr ⟨["w".toList, "a.py".toList], _, rfl, by decide +kernel, rfl⟩
  have hshort : ∀ issue ∈ findings env request, ∀ place ∈ issue.place?,
      place.source.length ≤ 4369 := by decide +kernel
  obtain ⟨asg, front, back, hasg, -, hfront, -, -, hsolitary, hcolumns⟩ :=
    value_underlined request hconfig (List.mem_singleton.mpr rfl) hfound rfl
      fun issue hissue => Issue.not_outOfReach (hshort issue hissue)
  obtain rfl : ⟨"漢 =".toList, "né".toList, 6⟩ = asg := Option.some.inj hasg
  obtain rfl : "漢 = ".toList = front := Option.some.inj hfront
  have hones : ∀ c ∈ "né".toList, Solitary c ∧ charWidth c = 1 := by
    intro c hc
    have hletter : c = 'n' ∨ c = 'é' := List.mem_pair.mp hc
    have hlow : c.toNat < 0x300 ∧ c ≠ '\n' ∧ c ≠ '\u00AD' := by
      rcases hletter with rfl | rfl <;> decide
    exact ⟨Unicode.DisplayWidth.solitary_of_lt hlow.1 hlow.2.1,
      Unicode.DisplayWidth.charWidth_of_lt hlow.1 hlow.2.2⟩
  have hvalue : displayWidth "né".toList = 2 := Unicode.displayWidth_eq_length hones
  have hindent : displayWidth "漢 = ".toList = 5 := by
    have hspace : (Unicode.DisplayWidth.measure " = ".toList).2 = .nothing := rfl
    show displayWidth (['漢'] ++ " = ".toList) = 5
    rw [Unicode.displayWidth_append _ hspace, displayWidth_ideograph]
    rfl
  have hboth := (hsolitary fun c hc => (hones c hc).1).2
  have hunderlined := hcolumns hones
  simp only [hindent, hvalue] at hboth hunderlined
  exact ⟨hunderlined, hvalue, hboth⟩

end

section

open scoped PatternEngine

/-- A value that is one ideograph takes two columns, but it is underlined by one caret. -/
theorem ideograph_half_underlined :
    let env : Environment :=
      { tree := .ofEntries [(["w".toList, "a.py".toList],
          .file (some "x = 漢 # [CB]: a|b\n".toList))]
        directory := ["w".toList]
        colours := false }
    let request : CheckRequest := { files := ["a.py".toList], settings := ⟨none, false⟩ }
    let output := ((Command.check request).run env).output
    let line : Text := "x = 漢 # [CB]: a|b".toList
    Config.load env.tree env.directory = .ok (.default, none) ∧
      (∃ found ∈ Listing.scanned env request.settings .default "a.py".toList,
        found.text = line ∧ found.choice.isValid = false ∧ found.choice.value? = some ['漢']) ∧
      output = [
        "warning: Variable value \"漢\" does not match any carousel value (a, b)  invalid-value",
        "  --> a.py:1:5",
        "  |",
        "1 | x = 漢 # [CB]: a|b",
        "  |     ^",
        "",
        "✘ 1 problem (0 errors, 1 warning)"].flatMap (Report.line ·.toList) ∧
      displayWidth ['漢'] = 2 ∧
      ¬ Report.Underlined output line (displayWidth "x = ".toList) (displayWidth ['漢']) := by
  intro env request output line
  let found : AnnotatedLine :=
    { index := 0
      text := line
      choice := ⟨⟨"#".toList, by decide⟩, some ⟨"x =".toList, "漢".toList, 4⟩,
        ["a".toList, "b".toList], "# [CB]: a|b".toList, 8⟩ }
  have hfound : found ∈ Listing.scanned env request.settings .default "a.py".toList :=
    Listing.mem_scanned_iff.mpr ⟨["w".toList, "a.py".toList], _, rfl, by decide +kernel, rfl⟩
  have hcarets : output.count '^' = 1 := by decide +kernel
  refine ⟨rfl, ⟨found, hfound, rfl, rfl, rfl⟩, by decide +kernel, displayWidth_ideograph, ?_⟩
  intro hunderlined
  have hle := hunderlined.le_count
  rw [hcarets, displayWidth_ideograph] at hle
  exact absurd hle (by decide)

end

end Checking

end InlineChoice
