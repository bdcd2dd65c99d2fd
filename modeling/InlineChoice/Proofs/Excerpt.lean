import InlineChoice.Proofs.DisplayWidth
import InlineChoice.Proofs.IssueOrder
import InlineChoice.Proofs.Listing
import Mathlib.Order.Bounds.Basic

/-!
# Where a report points

An issue holds the place of a value as a line and a column, and a report turns both into
columns of the terminal. Three computations meet there: the column was cut out of the line
at a byte offset, the gutter is as wide as the largest line number of all issues, and the
carets are indented by the display width of the text in front of the value.

`Report.Rows` are the three rows of an excerpt (`Report.excerpt`), and `Report.Rows.Shows` says
of them what a reader of the report sees, in columns and without the functions that write
them. Every issue with a place has such rows in a report, and all of them share one gutter
(`Report.exists_rows`). `issue_points_at_value` adds where the issue of a document comes
from. The report is the whole one, which is written if all of its issues are in reach.
-/

namespace InlineChoice

/-! ## Numerals -/

namespace Text

/-- A larger number has no shorter numeral. -/
theorem length_ofNat_le {m n : Nat} (h : m ≤ n) : (ofNat m).length ≤ (ofNat n).length := by
  have hpos : 0 < (ofNat n).length := Nat.length_toDigits_pos
  have hbound : n < 10 ^ (ofNat n).length :=
    (Nat.length_toDigits_le_iff (by decide) hpos).mp (Nat.le_refl _)
  exact (Nat.length_toDigits_le_iff (by decide) hpos).mpr (Nat.lt_of_le_of_lt h hbound)

theorem isDigit_of_mem_ofNat {n : Nat} {c : Char} (h : c ∈ ofNat n) : c.isDigit = true :=
  Nat.isDigit_of_mem_toDigits (by decide) (by decide) h

end Text

/-! ## Columns -/

namespace Terminal

theorem length_padStart {width : Nat} {t : Text} (h : t.length ≤ width) :
    (padStart width t).length = width := by
  rw [padStart, List.length_append, List.length_replicate]
  omega

theorem mem_padStart {width : Nat} {t : Text} {c : Char} (h : c ∈ padStart width t) :
    c = ' ' ∨ c ∈ t := by
  rcases List.mem_append.mp h with hpad | hmem
  · exact Or.inl (List.eq_of_mem_replicate hpad)
  · exact Or.inr hmem

end Terminal

/-! ## The rows of an excerpt -/

namespace Report

open Terminal (padStart)

/-- The three rows that show the source line of an issue. -/
structure Rows where
  top : Text
  source : Text
  caret : Text

namespace Rows

/-- The rows, each on a line of its own. -/
def text (rows : Rows) : Text :=
  line rows.top ++ line rows.source ++ line rows.caret

/-- The rows stand in a report, from the start of a line on. -/
def StandIn (rows : Rows) (report : Text) : Prop :=
  ∃ front back, report = front ++ rows.text ++ back ∧ front.getLast? = some '\n'

/-- The rows show a place, with a gutter of the given width. -/
structure Shows (rows : Rows) (gutter : Nat) (place : SourcePlace) (carets : Nat) : Prop where
  /-- All bars stand one space right of the gutter. -/
  bar : ∀ row ∈ [rows.top, rows.source, rows.caret], row.idxOf '|' = gutter + 1
  /-- No character in front of a bar is wide or without a width. -/
  bar_column : ∀ row ∈ [rows.top, rows.source, rows.caret],
    Unicode.displayWidth (row.take (gutter + 1)) = gutter + 1
  /-- The line number stands at the right end of the gutter. -/
  number : ∃ margin, Text.AllBlank margin ∧
    rows.source.take gutter = margin ++ Text.ofNat place.line
  /-- One space right of the bar stands the source line. -/
  source : rows.source.drop (gutter + 2) = ' ' :: place.source
  /-- The carets have the same space in front of their indentation. -/
  space : rows.caret[gutter + 2]? = some ' '
  /-- The carets are indented by the display width of what stands in front of the place. -/
  caret : rows.caret.idxOf '^' =
    gutter + 3 + Unicode.displayWidth (place.source.take (place.column - 1))
  caret_column : Unicode.displayWidth (rows.caret.take (rows.caret.idxOf '^')) =
    gutter + 3 + Unicode.displayWidth (place.source.take (place.column - 1))
  carets : rows.caret.drop (rows.caret.idxOf '^') = List.replicate carets '^'

end Rows

/-- The lines of an entry that show the place of its issue. -/
def excerpt (colours : Bool) (gutter : Nat) (issue : Issue) (place : SourcePlace) : Text :=
  sourceLines colours gutter place ++ caretLine colours gutter issue place

/-- The rows of an issue with a place. -/
def rowsOf (gutter : Nat) (issue : Issue) (place : SourcePlace) : Rows where
  top := padStart gutter [] ++ " |".toList
  source := padStart gutter (Text.ofNat place.line) ++ " | ".toList ++ place.source
  caret := padStart gutter [] ++ " | ".toList
    ++ padStart (Unicode.displayWidth (place.source.take (place.column - 1))) []
    ++ List.replicate issue.caretCount '^'

/-- Without colours the excerpt consists of the rows. -/
theorem excerpt_false (gutter : Nat) (issue : Issue) (place : SourcePlace) :
    excerpt false gutter issue place = (rowsOf gutter issue place).text := by
  simp [excerpt, sourceLines, caretLine, indent, rowsOf, Rows.text, bar, line]

/-- Digits, and the spaces in front of them, are narrow. -/
theorem narrow_padStart (width : Nat) {t : Text} (h : ∀ c ∈ t, c.isDigit = true) :
    (padStart width t).Narrow := by
  intro c hc
  rcases Terminal.mem_padStart hc with rfl | hmem
  · decide
  · have hdigit := h c hmem
    simp only [Char.isDigit, Bool.and_eq_true, decide_eq_true_eq] at hdigit
    have hhigh : c.toNat ≤ 57 := hdigit.2
    refine ⟨by omega, ?_⟩
    rintro rfl
    exact absurd hdigit.1 (by decide)

/-- No other sign is among them. -/
theorem notMem_padStart (width : Nat) {t : Text} {sign : Char}
    (h : ∀ c ∈ t, c.isDigit = true) (hspace : sign ≠ ' ') (hdigit : sign.isDigit = false) :
    sign ∉ padStart width t := by
  intro hmem
  rcases Terminal.mem_padStart hmem with heq | hmem
  · exact hspace heq
  · rw [h sign hmem] at hdigit
    cases hdigit

/-- A sign first stands behind what does not contain it, and in the same column if that is
narrow. -/
theorem idxOf_sign {front : Text} {sign : Char} (hnarrow : front.Narrow) (hfree : sign ∉ front)
    (rest : Text) :
    (front ++ sign :: rest).idxOf sign = front.length ∧
      Unicode.displayWidth ((front ++ sign :: rest).take front.length) = front.length := by
  constructor
  · rw [List.idxOf_append_of_notMem hfree, List.idxOf_cons_self]
    rfl
  · rw [List.take_left, Unicode.displayWidth_of_narrow hnarrow]

/-- The first bar of a row stands one space right of the gutter. -/
theorem bar_of_row {gutter : Nat} {t row : Text} (rest : Text) (hwide : t.length ≤ gutter)
    (hdigits : ∀ c ∈ t, c.isDigit = true) (hrow : row = padStart gutter t ++ " |".toList ++ rest) :
    row.idxOf '|' = gutter + 1 ∧ Unicode.displayWidth (row.take (gutter + 1)) = gutter + 1 := by
  have hbar : '|' ∉ padStart gutter t := notMem_padStart gutter hdigits (by decide) (by decide)
  have hlength : (padStart gutter t ++ [' ']).length = gutter + 1 := by
    rw [List.length_append, Terminal.length_padStart hwide]
    rfl
  have hfree : '|' ∉ padStart gutter t ++ [' '] := by simp [hbar]
  have hsplit : row = (padStart gutter t ++ [' ']) ++ '|' :: rest := by simp [hrow]
  have hnarrow : (padStart gutter t ++ [' ']).Narrow :=
    Text.narrow_append.mpr ⟨narrow_padStart gutter hdigits, Text.narrow_space⟩
  have hsign := idxOf_sign hnarrow hfree rest
  rwa [hlength, ← hsplit] at hsign

/-- The carets of a row stand behind the indentation. -/
theorem caret_of_row {gutter indent carets : Nat} {row : Text} (hcarets : 0 < carets)
    (hrow : row = padStart gutter [] ++ " | ".toList ++ padStart indent []
      ++ List.replicate carets '^') :
    row.idxOf '^' = gutter + 3 + indent ∧
      Unicode.displayWidth (row.take (gutter + 3 + indent)) = gutter + 3 + indent ∧
      row.drop (gutter + 3 + indent) = List.replicate carets '^' := by
  have hnone : ∀ c ∈ ([] : Text), c.isDigit = true := List.forall_mem_nil _
  have hblank (width : Nat) : (padStart width []).Narrow := narrow_padStart width hnone
  have hblankCaret (width : Nat) : '^' ∉ padStart width [] :=
    notMem_padStart width hnone (by decide) (by decide)
  generalize hfront : padStart gutter [] ++ " | ".toList ++ padStart indent [] = front at hrow
  have hlength : front.length = gutter + 3 + indent := by
    rw [← hfront, List.length_append, List.length_append,
      Terminal.length_padStart (Nat.zero_le _), Terminal.length_padStart (Nat.zero_le _)]
    rfl
  have hnarrow : front.Narrow := by
    rw [← hfront]
    exact Text.narrow_append.mpr
      ⟨Text.narrow_append.mpr ⟨hblank gutter, Text.narrow_bar⟩, hblank indent⟩
  have hfree : '^' ∉ front := by simp [← hfront, hblankCaret]
  have hdrop : row.drop (gutter + 3 + indent) = List.replicate carets '^' := by
    rw [hrow, ← hlength, List.drop_left]
  obtain ⟨n, rfl⟩ : ∃ n, carets = n + 1 := ⟨carets - 1, by omega⟩
  rw [List.replicate_succ] at hrow
  obtain ⟨hindex, hcolumn⟩ := idxOf_sign hnarrow hfree (List.replicate n '^')
  rw [hlength, ← hrow] at hindex hcolumn
  exact ⟨hindex, hcolumn, hdrop⟩

/-- The rows of an issue show its place, if the gutter is wide enough for the line number. -/
theorem rowsOf_shows {gutter : Nat} {issue : Issue} {place : SourcePlace}
    (hwide : (Text.ofNat place.line).length ≤ gutter) (hcarets : 0 < issue.caretCount) :
    (rowsOf gutter issue place).Shows gutter place issue.caretCount := by
  generalize hindent : Unicode.displayWidth (place.source.take (place.column - 1)) = indent
  have hnone : ∀ c ∈ ([] : Text), c.isDigit = true := List.forall_mem_nil _
  have hdigits : ∀ c ∈ Text.ofNat place.line, c.isDigit = true := by
    intro c hc
    exact Text.isDigit_of_mem_ofNat hc
  have hnumberLength : (padStart gutter (Text.ofNat place.line)).length = gutter :=
    Terminal.length_padStart hwide
  have hblankLength : (padStart gutter []).length = gutter :=
    Terminal.length_padStart (Nat.zero_le _)
  have htop : (rowsOf gutter issue place).top = padStart gutter [] ++ " |".toList ++ [] := by
    simp [rowsOf]
  have hsource : (rowsOf gutter issue place).source =
      padStart gutter (Text.ofNat place.line) ++ " |".toList ++ ' ' :: place.source := by
    simp [rowsOf]
  have hcaret : (rowsOf gutter issue place).caret =
      padStart gutter [] ++ " |".toList ++
        ' ' :: (padStart indent [] ++ List.replicate issue.caretCount '^') := by
    simp [rowsOf, hindent]
  obtain ⟨hbarTop, hcolumnTop⟩ := bar_of_row _ (Nat.zero_le _) hnone htop
  obtain ⟨hbarSource, hcolumnSource⟩ := bar_of_row _ hwide hdigits hsource
  obtain ⟨hbarCaret, hcolumnCaret⟩ := bar_of_row _ (Nat.zero_le _) hnone hcaret
  obtain ⟨hindex, hcolumn, hdrop⟩ : (rowsOf gutter issue place).caret.idxOf '^' =
      gutter + 3 + indent ∧ _ := caret_of_row hcarets (by simp [rowsOf, hindent])
  refine
    { bar := by simp [hbarTop, hbarSource, hbarCaret]
      bar_column := by simp [hcolumnTop, hcolumnSource, hcolumnCaret]
      number := ?_
      source := ?_
      space := ?_
      caret := by rw [hindex, hindent]
      caret_column := by rw [hindex, hindent, hcolumn]
      carets := by rw [hindex, hdrop] }
  · refine ⟨List.replicate (gutter - (Text.ofNat place.line).length) ' ', ?_, ?_⟩
    · intro c hc
      rw [List.eq_of_mem_replicate hc]
      decide
    · rw [hsource, List.append_assoc, List.take_left' hnumberLength]
      rfl
  · have hlength : (padStart gutter (Text.ofNat place.line) ++ " |".toList).length =
        gutter + 2 := by
      rw [List.length_append, hnumberLength]
      rfl
    rw [hsource, List.drop_left' hlength]
  · have hlength : (padStart gutter [] ++ " |".toList).length = gutter + 2 := by
      rw [List.length_append, hblankLength]
      rfl
    rw [hcaret, List.getElem?_append_right (by omega), hlength, Nat.sub_self]
    rfl

/-! ## Rows in a report -/

/-- The lengths of the line numbers of some issues. -/
def numberWidths (issues : List Issue) : Set Nat :=
  {width | ∃ issue ∈ issues, ∃ place, issue.place? = some place ∧
    width = (Text.ofNat place.line).length}

/-- The gutter has the width of the widest line number. -/
theorem isGreatest_gutterWidth {issues : List Issue} {issue : Issue} {place : SourcePlace}
    (hmem : issue ∈ issues) (hplace : issue.place? = some place) :
    IsGreatest (numberWidths issues) (gutterWidth issues) := by
  rw [gutterWidth]
  generalize hnumbers : (issues.filterMap fun issue => issue.place?.map (·.line)) = numbers
  have hnumber {n : Nat} : n ∈ numbers ↔ ∃ issue ∈ issues, ∃ place,
      issue.place? = some place ∧ place.line = n := by
    simp only [← hnumbers, List.mem_filterMap, Option.map_eq_some_iff]
  cases hmax : numbers.max? with
  | none =>
      have hin : place.line ∈ numbers := hnumber.mpr ⟨issue, hmem, place, hplace, rfl⟩
      rw [List.max?_eq_none_iff] at hmax
      rw [hmax] at hin
      cases hin
  | some widest =>
      obtain ⟨hwidest, hbound⟩ := List.max?_eq_some_iff.mp hmax
      constructor
      · obtain ⟨issue, hmem, place, hplace, hline⟩ := hnumber.mp hwidest
        exact ⟨issue, hmem, place, hplace, by rw [hline]; rfl⟩
      · rintro width ⟨issue, hmem, place, hplace, rfl⟩
        exact Text.length_ofNat_le (hbound _ (hnumber.mpr ⟨issue, hmem, place, hplace, rfl⟩))

/-- The order of the issues does not matter for the gutter. -/
theorem numberWidths_sort (issues : List Issue) :
    numberWidths (Issue.sort issues) = numberWidths issues := by
  simp only [numberWidths, (Issue.sort_perm issues).mem_iff]

/-- The excerpt of an issue stands in every report that holds the issue, behind the line with
its location. -/
theorem exists_excerpt (colours : Bool) {issues : List Issue} {issue : Issue}
    {place : SourcePlace} (hmem : issue ∈ issues) (hplace : issue.place? = some place) :
    ∃ front back, render colours issues =
      front ++ excerpt colours (gutterWidth (Issue.sort issues)) issue place ++ back ∧
      front.getLast? = some '\n' := by
  generalize hgutter : gutterWidth (Issue.sort issues) = gutter
  obtain ⟨before, after, hsplit⟩ :=
    List.append_of_mem ((Issue.sort_perm issues).mem_iff.mpr hmem)
  have hne : issues ≠ [] := List.ne_nil_of_mem hmem
  have hentry : entry colours gutter issue =
      headline colours issue ++ pointer colours (location issue) ++
        excerpt colours gutter issue place ++ line [] := by
    simp only [entry, opening, hplace, Option.elim_some, excerpt, List.append_assoc]
  refine ⟨before.flatMap (entry colours gutter) ++
      (headline colours issue ++ pointer colours (location issue)),
    line [] ++ after.flatMap (entry colours gutter) ++ summary colours (Issue.sort issues), ?_, ?_⟩
  · simp only [render, if_neg hne, hgutter]
    simp only [hsplit, List.flatMap_append, List.flatMap_cons, hentry, List.append_assoc]
  · rw [pointer, line, ← List.append_assoc, ← List.append_assoc, List.getLast?_concat]

/-- The rows of an issue stand in every report that holds the issue. -/
theorem rowsOf_standIn {issues : List Issue} {issue : Issue} {place : SourcePlace}
    (hmem : issue ∈ issues) (hplace : issue.place? = some place) :
    (rowsOf (gutterWidth (Issue.sort issues)) issue place).StandIn (render false issues) := by
  obtain ⟨front, back, hreport, hlast⟩ := exists_excerpt false hmem hplace
  rw [excerpt_false] at hreport
  exact ⟨front, back, hreport, hlast⟩

/-- **A report shows every place in one gutter.** The gutter is as wide as the widest line
number of the whole list, and the rows of each issue with a place stand in the report. -/
theorem exists_rows {issues : List Issue} (hsome : ∃ issue ∈ issues, issue.place? ≠ none) :
    ∃ gutter, IsGreatest (numberWidths issues) gutter ∧
      ∀ issue ∈ issues, ∀ place, issue.place? = some place →
        ∃ rows : Rows, rows.StandIn (render false issues) ∧
          rows.Shows gutter place issue.caretCount := by
  obtain ⟨issue, hmem, hplace⟩ := hsome
  obtain ⟨place, hplace⟩ := Option.ne_none_iff_exists'.mp hplace
  have hgreatest := isGreatest_gutterWidth ((Issue.sort_perm issues).mem_iff.mpr hmem) hplace
  rw [numberWidths_sort] at hgreatest
  refine ⟨_, hgreatest, ?_⟩
  intro issue hmem place hplace
  have hcarets : 0 < issue.caretCount := by
    cases issue <;> simp [Issue.caretCount]
  exact ⟨_, rowsOf_standIn hmem hplace,
    rowsOf_shows (hgreatest.2 ⟨issue, hmem, place, hplace, rfl⟩) hcarets⟩

end Report

/-- **An issue points at its value.** Each scanned line whose value is not valid has an
issue with the number and the text of the line, and its column and its extent cut the value
out of that text. In every report without colours that holds the issue, the rows of all
issues with a place have their bars in one column, one space right of the widest line
number, and their carets are indented by the display width of what stands in front of the
place; for this issue that is the text in front of the value. Such a report is written as a
whole if all of its issues are in reach. -/
theorem issue_points_at_value [PatternEngine] {doc : Document} {syn : CommentSyntax}
    {found : AnnotatedLine} (hfound : found ∈ doc.scan syn)
    (hinvalid : found.choice.isValid = false) (file : Text) :
    ∃ place extent message value,
      Issue.ofLine? file found = some (.invalidValue place extent message) ∧
      place.file = file ∧ place.line = found.index + 1 ∧
      doc.line? found.index = some place.source ∧ found.choice.value? = some value ∧
      value ≠ [] ∧ value ∉ found.choice.candidates ∧
      (place.source.drop (place.column - 1)).take extent = value ∧
      ∀ issues, Issue.invalidValue place extent message ∈ issues →
        ((∀ issue ∈ issues, ¬ issue.OutOfReach) →
          Report.print false issues = ⟨Report.render false issues, true⟩) ∧
        ∃ gutter, IsGreatest (Report.numberWidths issues) gutter ∧
          ∀ issue ∈ issues, ∀ p, issue.place? = some p →
            ∃ rows : Report.Rows, rows.StandIn (Report.render false issues) ∧
              rows.Shows gutter p issue.caretCount := by
  obtain ⟨hline, hparse⟩ := Document.mem_scan_iff.mp hfound
  have hmismatched := (Choice.isValid_eq_false_iff hparse).mp hinvalid
  obtain ⟨issue, hdescribes⟩ := Line.exists_describes hmismatched file found.index
  have hissue : Issue.ofLine? file found = some issue := by
    have hlineIssue := Line.issue?_eq_some_iff.mpr hdescribes
    rw [Line.issue?, hparse] at hlineIssue
    exact hlineIssue
  obtain ⟨a, asg, front, hparse', hasg, hne, hforeign, -, rfl⟩ := id hdescribes
  obtain rfl : found.choice = a := Option.some.inj (hparse.symm.trans hparse')
  have hvalue : found.choice.value? = some asg.value := by
    rw [Choice.value?, hasg]
    rfl
  obtain ⟨-, hcut⟩ := hdescribes.value?_eq hparse
  rw [hvalue] at hcut
  refine ⟨_, _, _, asg.value, hissue, rfl, rfl, hline, hvalue, hne, hforeign,
    (Option.some.inj hcut).symm, ?_⟩
  intro issues hmem
  exact ⟨Report.print_eq_render false, Report.exists_rows ⟨_, hmem, Option.some_ne_none _⟩⟩

section

open scoped PatternEngine

/-- A wide space in front of the value, in a report with a line number of four digits. -/
theorem issue_points_at_value_wide_space :
    let doc := Document.ofText "python".toList
      "ok = 1 # [CB]: 1|0\r\n\u3000v = 42 # [CB]: 1|0".toList
    let place : SourcePlace :=
      { file := "a".toList, line := 2, column := 6, source := "\u3000v = 42 # [CB]: 1|0".toList }
    let issue : Issue := .invalidValue place 2
      "Variable value \"42\" does not match any carousel value (1, 0)".toList
    let other : Issue := .invalidValue ⟨"b".toList, 1000, 0, []⟩ 0 []
    (∃ found ∈ doc.scan ⟨[], []⟩, found.choice.isValid = false ∧
      Issue.ofLine? "a".toList found = some issue) ∧
    ∃ rows : Report.Rows,
      rows.StandIn (Report.render false [other, issue, .readError "c".toList []]) ∧
      rows.Shows 4 place 2 := by
  intro doc place issue other
  let found : AnnotatedLine :=
    { index := 1
      text := place.source
      choice := ⟨⟨"#".toList, by decide⟩, some ⟨"\u3000v =".toList, "42".toList, 7⟩,
        ["1".toList, "0".toList], "# [CB]: 1|0".toList, 10⟩ }
  have hline : (Document.ofText "python".toList
      "ok = 1 # [CB]: 1|0\r\n\u3000v = 42 # [CB]: 1|0".toList).line? 1 =
        some "\u3000v = 42 # [CB]: 1|0".toList := by decide +kernel
  have hfound : found ∈ doc.scan ⟨[], []⟩ := Document.mem_scan_iff.mpr ⟨hline, rfl⟩
  have hinvalid : found.choice.isValid = false := rfl
  have hissue : Issue.ofLine? "a".toList found = some issue := rfl
  obtain ⟨p, extent, message, value, hsome, -, -, -, -, -, -, -, hreport⟩ :=
    issue_points_at_value hfound hinvalid "a".toList
  have hsame : issue = .invalidValue p extent message :=
    Option.some.inj (hissue.symm.trans hsome)
  rw [← hsame] at hreport
  obtain ⟨-, gutter, hgreatest, hrows⟩ :=
    hreport [other, issue, .readError "c".toList []] (by simp)
  have hgutter : gutter = 4 := by
    have hleast : 4 ≤ gutter := hgreatest.2 ⟨other, by simp, _, rfl, rfl⟩
    obtain ⟨reported, hmem, q, hplace, hwidth⟩ := hgreatest.1
    have hcases : reported = other ∨ reported = issue ∨ reported = .readError "c".toList [] := by
      simpa using hmem
    rcases hcases with h | h | h
    · rw [h] at hplace
      rw [← Option.some.inj hplace] at hwidth
      exact hwidth
    · rw [h] at hplace
      rw [← Option.some.inj hplace] at hwidth
      have htwo : gutter = (Text.ofNat 2).length := hwidth
      have hone : gutter = 1 := htwo
      omega
    · rw [h] at hplace
      cases hplace
  rw [hgutter] at hrows
  exact ⟨⟨found, hfound, hinvalid, hissue⟩, hrows issue (by simp) place rfl⟩

end

end InlineChoice
