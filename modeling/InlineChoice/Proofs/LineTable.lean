import InlineChoice.Document.LineTable
import InlineChoice.Proofs.Annotation
import InlineChoice.Proofs.Lines

/-!
# The theory of line tables

A line table is another form of the lines of a text: the segments are the lines with their
terminators (`LineTable.segments_eq`), and stripping a segment finds its content
(`LineTable.content_text`). The running offset is therefore the size of all lines so far
(`LineTable.getElem?_ofText`), and whatever is true of the lines can be read off the text
with the table alone.

`LineTable.Partitions` says what is to be known about a table without knowing how it was
made, and `LineTable.partitions_ofText` that it is true of the table of every text. A
document that keeps its text in one piece, and reads and replaces a line through the table,
is the same document (`Document.line?_eq_slice?`, `Document.replaceLine?_eq_splice?`).
-/

namespace InlineChoice

open TerminatedLine (WellCut toText)

/-- The offset is the size of a front part. -/
def Text.IsBoundary (t : Text) (offset : Nat) : Prop :=
  ∃ front back, t = front ++ back ∧ front.byteSize = offset

namespace LineTable

/-! ## Segments are lines -/

/-- A segment is a line with its terminator. -/
theorem segments_eq (t : Text) : t.segments = (TerminatedLine.ofText t).map (·.text) := by
  fun_induction TerminatedLine.ofText t with
  | case1 => rfl
  | case2 rest ih =>
      rw [Text.segments, if_pos rfl, ih]
      rfl
  | case3 rest ih =>
      rw [Text.segments, if_neg (by decide), Text.segments, if_pos rfl, ih]
      rfl
  | case4 c rest hfeed hreturn hnil ih =>
      rw [Text.segments, if_neg hfeed, ih, hnil]
      rfl
  | case5 c rest hfeed hreturn line lines hcons ih =>
      rw [Text.segments, if_neg hfeed, ih, hcons]
      rfl

theorem stripLast?_concat (front : Text) (c : Char) :
    Text.stripLast? c (front ++ [c]) = some front := by
  simp [Text.stripLast?]

/-- Stripping finds the content of a line as it is cut from a text. -/
theorem content_text {line : TerminatedLine} (h : line.IsProper) :
    content line.text = line.content := by
  obtain ⟨text, terminator⟩ := line
  cases terminator with
  | lineFeed =>
      have hlast : text.getLast? ≠ some '\r' := h.2
      show content (text ++ ['\n']) = text
      rw [content, stripLast?_concat]
      simp [Text.stripLast?, hlast]
  | carriageReturnLineFeed =>
      have hsplit : text ++ ['\r', '\n'] = (text ++ ['\r']) ++ ['\n'] := by simp
      show content (text ++ ['\r', '\n']) = text
      rw [hsplit, content, stripLast?_concat]
      simp [stripLast?_concat]
  | endOfText =>
      have hlast : text.getLast? ≠ some '\n' := fun hlast =>
        h.1 (List.mem_of_getLast? hlast)
      show content (text ++ []) = text
      simp [content, Text.stripLast?, hlast]

/-! ## The place of a row -/

/-- The byte offset of a line: the size of everything in front of it. -/
def offset (lines : List TerminatedLine) (index : Nat) : Nat :=
  Text.byteSize (toText (lines.take index))

theorem offset_succ {lines : List TerminatedLine} {index : Nat} {line : TerminatedLine}
    (hline : lines[index]? = some line) :
    offset lines (index + 1) =
      offset lines index + line.content.byteSize + line.terminator.text.byteSize := by
  have htake : lines.take (index + 1) = lines.take index ++ [line] := by
    rw [List.take_add_one, hline]
    rfl
  rw [offset, offset, htake, TerminatedLine.toText_append, Text.byteSize_append]
  simp [TerminatedLine.text, Nat.add_assoc]

theorem offset_length (lines : List TerminatedLine) :
    offset lines lines.length = Text.byteSize (toText lines) := by
  rw [offset, List.take_length]

/-- The range of a line in a table. -/
def row (lines : List TerminatedLine) (index : Nat) (line : TerminatedLine) : ByteRange :=
  ⟨offset lines index, offset lines index + line.content.byteSize⟩

/-- The running offset is the size of the segments so far. -/
theorem getElem?_rangesFrom {lines : List TerminatedLine} (h : ∀ line ∈ lines, line.IsProper)
    (start index : Nat) :
    (rangesFrom start (lines.map (·.text)))[index]? = lines[index]?.map fun line =>
      ⟨start + offset lines index, start + offset lines index + line.content.byteSize⟩ := by
  induction lines generalizing start index with
  | nil => rfl
  | cons line lines ih =>
      have hline : content line.text = line.content := content_text (h line List.mem_cons_self)
      cases index with
      | zero => simp [rangesFrom, offset, hline]
      | succ index =>
          have hrest := ih (fun l hl => h l (List.mem_cons_of_mem line hl))
            (start + line.text.byteSize) index
          rw [List.map_cons, rangesFrom, List.getElem?_cons_succ, hrest]
          simp [offset, Nat.add_assoc]

/-- The rows of a table in terms of the lines. -/
theorem getElem?_ofText (t : Text) (index : Nat) :
    (ofText t)[index]? =
      (TerminatedLine.ofText t)[index]?.map (row (TerminatedLine.ofText t) index) := by
  have hproper := (TerminatedLine.wellCut_ofText t).proper
  rw [ofText, segments_eq, getElem?_rangesFrom hproper]
  simp only [Nat.zero_add]
  rfl

theorem length_ofText (t : Text) : (ofText t).length = (TerminatedLine.ofText t).length := by
  have hlength (start : Nat) (segments : List Text) :
      (rangesFrom start segments).length = segments.length := by
    induction segments generalizing start with
    | nil => rfl
    | cons segment others ih => rw [rangesFrom, List.length_cons, ih, List.length_cons]
  rw [ofText, hlength, segments_eq, List.length_map]

/-! ## What a row points at -/

/-- A row points at the content of a line, between what stands in front of the line and
what stands behind it. -/
structure PointsAt (t : Text) (row : ByteRange) (line : TerminatedLine) (front back : Text) :
    Prop where
  text_eq : t = front ++ line.content ++ (line.terminator.text ++ back)
  row_eq : row = ⟨front.byteSize, front.byteSize + line.content.byteSize⟩

namespace PointsAt

variable {t : Text} {row : ByteRange} {line : TerminatedLine} {front back : Text}

theorem start_eq (h : PointsAt t row line front back) : row.start = front.byteSize := by
  rw [h.row_eq]

theorem stop_eq (h : PointsAt t row line front back) :
    row.stop = (front ++ line.content).byteSize := by
  rw [h.row_eq, Text.byteSize_append]

theorem in_bounds (h : PointsAt t row line front back) :
    row.start ≤ row.stop ∧ row.stop ≤ t.byteSize := by
  have hsize := congrArg Text.byteSize h.text_eq
  rw [Text.byteSize_append, ← h.stop_eq] at hsize
  rw [hsize, h.row_eq]
  exact ⟨Nat.le_add_right _ _, Nat.le_add_right _ _⟩

theorem isBoundary (h : PointsAt t row line front back) :
    t.IsBoundary row.start ∧ t.IsBoundary row.stop := by
  have htext := h.text_eq
  constructor
  · rw [List.append_assoc] at htext
    exact ⟨front, _, htext, h.start_eq.symm⟩
  · exact ⟨front ++ line.content, _, htext, h.stop_eq.symm⟩

theorem slice?_row (h : PointsAt t row line front back) : t.slice? row = some line.content := by
  rw [h.text_eq, h.row_eq]
  exact Text.slice?_middle front line.content _

/-- The terminator stands behind the row. -/
theorem slice?_ending (h : PointsAt t row line front back) :
    t.slice? ⟨row.stop, row.stop + line.terminator.text.byteSize⟩ =
      some line.terminator.text := by
  rw [h.text_eq, h.stop_eq, ← List.append_assoc]
  exact Text.slice?_middle (front ++ line.content) line.terminator.text back

theorem splice? (h : PointsAt t row line front back) (content : Text) :
    t.splice? row content = some (front ++ content ++ (line.terminator.text ++ back)) := by
  have hfront : t.takeBytes? row.start = some front := by
    rw [h.text_eq, h.start_eq, List.append_assoc]
    exact Text.takeBytes?_byteSize_append front _
  have hback : t.dropBytes? row.stop = some (line.terminator.text ++ back) := by
    rw [h.text_eq, h.stop_eq]
    exact Text.dropBytes?_byteSize_append (front ++ line.content) _
  rw [Text.splice?, hfront, hback]
  rfl

end PointsAt

/-- The range from the end of a row to the next row, or to the end of the text. -/
def gap (t : Text) (table : List ByteRange) (index : Nat) (row : ByteRange) : ByteRange :=
  ⟨row.stop, (table[index + 1]?.map (·.start)).getD t.byteSize⟩

section Rows

variable {t : Text} {index : Nat} {line : TerminatedLine}
  (hline : (TerminatedLine.ofText t)[index]? = some line)

include hline

/-- Each line has a row, and the row points at it. -/
theorem pointsAt_row :
    PointsAt t (row (TerminatedLine.ofText t) index line) line
      (toText ((TerminatedLine.ofText t).take index))
      (toText ((TerminatedLine.ofText t).drop (index + 1))) := by
  refine ⟨?_, rfl⟩
  obtain ⟨hlt, rfl⟩ := List.getElem?_eq_some_iff.mp hline
  calc t = toText ((TerminatedLine.ofText t).take index ++
          (TerminatedLine.ofText t)[index] :: (TerminatedLine.ofText t).drop (index + 1)) := by
        rw [List.getElem_cons_drop, List.take_append_drop, TerminatedLine.toText_ofText]
    _ = _ := by
        rw [TerminatedLine.toText_append, TerminatedLine.toText_cons, TerminatedLine.text]
        simp only [List.append_assoc]

/-- Behind a row stands the terminator of its line, up to the next row. -/
theorem gap_row :
    gap t (ofText t) index (row (TerminatedLine.ofText t) index line) =
      ⟨(row (TerminatedLine.ofText t) index line).stop,
        (row (TerminatedLine.ofText t) index line).stop + line.terminator.text.byteSize⟩ := by
  have hnext : ((ofText t)[index + 1]?.map (·.start)).getD t.byteSize =
      offset (TerminatedLine.ofText t) (index + 1) := by
    rw [getElem?_ofText]
    cases hmore : (TerminatedLine.ofText t)[index + 1]? with
    | some next => rfl
    | none =>
        have hlt : index < (TerminatedLine.ofText t).length :=
          (List.getElem?_eq_some_iff.mp hline).1
        have hlast : index + 1 = (TerminatedLine.ofText t).length := by
          have := List.getElem?_eq_none_iff.mp hmore
          omega
        rw [hlast, offset_length, TerminatedLine.toText_ofText]
        rfl
  rw [gap, hnext, offset_succ hline]
  rfl

theorem slice?_gap :
    t.slice? (gap t (ofText t) index (row (TerminatedLine.ofText t) index line)) =
      some line.terminator.text := by
  rw [gap_row hline]
  exact (pointsAt_row hline).slice?_ending

end Rows

/-! ## Order -/

theorem le_start_of_mem {start : Nat} {segments : List Text} {r : ByteRange}
    (h : r ∈ rangesFrom start segments) : start ≤ r.start := by
  induction segments generalizing start with
  | nil => cases h
  | cons segment others ih =>
      rcases List.mem_cons.mp h with rfl | h
      · exact Nat.le_refl start
      · exact Nat.le_trans (Nat.le_add_right _ _) (ih h)

/-- Between two rows there is a terminator, so they do not touch. -/
theorem pairwise_rangesFrom {lines : List TerminatedLine} (h : WellCut lines) (start : Nat) :
    (rangesFrom start (lines.map (·.text))).Pairwise (·.stop < ·.start) := by
  induction lines generalizing start with
  | nil => exact List.Pairwise.nil
  | cons line lines ih =>
      obtain ⟨hproper, hended, hrest⟩ := TerminatedLine.wellCut_cons_iff.mp h
      rw [List.map_cons, rangesFrom, List.pairwise_cons, content_text hproper]
      refine ⟨fun r hr => ?_, ih hrest _⟩
      have hne : lines ≠ [] := by
        rintro rfl
        cases hr
      have hgap : 0 < line.terminator.text.byteSize := by
        cases hterm : line.terminator with
        | lineFeed => decide
        | carriageReturnLineFeed => decide
        | endOfText => exact absurd hterm (hended hne)
      have hle := le_start_of_mem hr
      rw [TerminatedLine.text, Text.byteSize_append] at hle
      show start + line.content.byteSize < r.start
      omega

/-! ## The number of rows -/

/-- Each line feed ends a line, and the end of the text may end another one. -/
theorem length_lines {lines : List TerminatedLine} (h : WellCut lines) :
    lines.length = (toText lines).count '\n' +
      if Terminator.endOfText ∈ lines.map (·.terminator) then 1 else 0 := by
  induction lines with
  | nil => rfl
  | cons line lines ih =>
      obtain ⟨hproper, hended, hrest⟩ := TerminatedLine.wellCut_cons_iff.mp h
      have hcontent : line.content.count '\n' = 0 := List.count_eq_zero.mpr hproper.1
      have hcount : (toText (line :: lines)).count '\n' =
          line.terminator.text.count '\n' + (toText lines).count '\n' := by
        rw [TerminatedLine.toText_cons, List.count_append, TerminatedLine.text,
          List.count_append, hcontent, Nat.zero_add]
      rw [hcount, List.length_cons, ih hrest]
      cases hterm : line.terminator with
      | lineFeed => simp [hterm, Terminator.text]; omega
      | carriageReturnLineFeed => simp [hterm, Terminator.text]; omega
      | endOfText =>
          obtain rfl : lines = [] := by
            by_contra hne
            exact hended hne hterm
          simp [hterm, Terminator.text]

/-! ## The partition -/

theorem exists_line_of_getElem? {t : Text} {index : Nat} {r : ByteRange}
    (h : (ofText t)[index]? = some r) :
    ∃ line, (TerminatedLine.ofText t)[index]? = some line ∧
      r = row (TerminatedLine.ofText t) index line := by
  rw [getElem?_ofText] at h
  obtain ⟨line, hline, hrow⟩ := Option.map_eq_some_iff.mp h
  exact ⟨line, hline, hrow.symm⟩

theorem exists_pointsAt_of_mem {t : Text} {r : ByteRange} (h : r ∈ ofText t) :
    ∃ line front back, PointsAt t r line front back := by
  obtain ⟨index, hindex⟩ := List.mem_iff_getElem?.mp h
  obtain ⟨line, hline, rfl⟩ := exists_line_of_getElem? hindex
  exact ⟨line, _, _, pointsAt_row hline⟩

/-- A content and what stands behind it, as a line and its terminator; only the last line
may have none. -/
structure IsLine (content ending : Text) (last : Prop) : Prop where
  no_feed : '\n' ∉ content
  ended : ending = ['\n'] ∨ ending = ['\r', '\n'] ∨ last ∧ ending = []
  no_return : ending = ['\n'] → content.getLast? ≠ some '\r'
  not_empty : ending = [] → content ≠ []

theorem isLine_of_isProper {line : TerminatedLine} (h : line.IsProper) {last : Prop}
    (hlast : line.terminator = .endOfText → last) :
    IsLine line.content line.terminator.text last := by
  obtain ⟨content, terminator⟩ := line
  obtain ⟨hfeed, hends⟩ := h
  cases terminator with
  | lineFeed => exact ⟨hfeed, Or.inl rfl, fun _ => hends, by simp [Terminator.text]⟩
  | carriageReturnLineFeed =>
      exact ⟨hfeed, Or.inr (Or.inl rfl), by simp [Terminator.text], by simp [Terminator.text]⟩
  | endOfText =>
      exact ⟨hfeed, Or.inr (Or.inr ⟨hlast rfl, rfl⟩), by simp [Terminator.text], fun _ => hends⟩

/-- The rows and the gaps behind them, put together. -/
def rejoined (t : Text) (table : List ByteRange) : Text :=
  table.zipIdx.flatMap fun (row, index) =>
    (t.slice? row).getD [] ++ (t.slice? (gap t table index row)).getD []

/-- A table partitions a text into lines: its rows are ranges of the text, between
characters and in order, with nothing but terminators outside of them and no terminator
inside. -/
structure Partitions (t : Text) (table : List ByteRange) : Prop where
  in_bounds : ∀ row ∈ table, row.start ≤ row.stop ∧ row.stop ≤ t.byteSize
  boundaries : ∀ row ∈ table, t.IsBoundary row.start ∧ t.IsBoundary row.stop
  increasing : table.Pairwise (·.stop < ·.start)
  first : ∀ row, table.head? = some row → row.start = 0
  lines : ∀ index row, table[index]? = some row →
    ∃ content ending, t.slice? row = some content ∧
      t.slice? (gap t table index row) = some ending ∧
      IsLine content ending (index + 1 = table.length)
  length : table.length =
    t.count '\n' + if t = [] ∨ t.getLast? = some '\n' then 0 else 1
  rejoined : rejoined t table = t

theorem rejoined_ofText (t : Text) : rejoined t (ofText t) = t := by
  have htexts : (ofText t).zipIdx.map (fun (r, index) =>
      (t.slice? r).getD [] ++ (t.slice? (gap t (ofText t) index r)).getD []) =
      (TerminatedLine.ofText t).map (·.text) := by
    apply List.ext_getElem?
    intro index
    rw [List.getElem?_map, List.getElem?_map, List.getElem?_zipIdx, getElem?_ofText]
    cases hline : (TerminatedLine.ofText t)[index]? with
    | none => rfl
    | some line =>
        simp [(pointsAt_row hline).slice?_row, slice?_gap hline, TerminatedLine.text]
  rw [rejoined, List.flatMap_def, htexts]
  exact TerminatedLine.toText_ofText t

/-- **The line table partitions the text.** -/
theorem partitions_ofText (t : Text) : Partitions t (ofText t) := by
  have hcut : WellCut (TerminatedLine.ofText t) := TerminatedLine.wellCut_ofText t
  refine ⟨?_, ?_, ?_, ?_, ?_, ?_, rejoined_ofText t⟩
  · intro r hr
    obtain ⟨line, front, back, hpoints⟩ := exists_pointsAt_of_mem hr
    exact hpoints.in_bounds
  · intro r hr
    obtain ⟨line, front, back, hpoints⟩ := exists_pointsAt_of_mem hr
    exact hpoints.isBoundary
  · rw [ofText, segments_eq]
    exact pairwise_rangesFrom hcut 0
  · intro r hr
    rw [List.head?_eq_getElem?] at hr
    obtain ⟨line, hline, rfl⟩ := exists_line_of_getElem? hr
    rfl
  · intro index r hr
    obtain ⟨line, hline, rfl⟩ := exists_line_of_getElem? hr
    refine ⟨line.content, line.terminator.text, (pointsAt_row hline).slice?_row,
      slice?_gap hline, ?_⟩
    rw [length_ofText]
    exact isLine_of_isProper (hcut.proper line (List.mem_of_getElem? hline))
      (hcut.last_of_endOfText hline)
  · have hcount := length_lines hcut
    rw [TerminatedLine.toText_ofText] at hcount
    rw [length_ofText, hcount, if_congr hcut.endOfText_mem_iff rfl rfl, ite_not,
      TerminatedLine.toText_ofText]

example : ofText "a\r\r\n\n\r漢".toList = [⟨0, 2⟩, ⟨4, 4⟩, ⟨5, 9⟩] := by decide

end LineTable

/-! ## Documents -/

namespace Document

/-- Reading a line goes through the table. -/
theorem line?_eq_slice? (language t : Text) (index : Nat) :
    (ofText language t).line? index = (LineTable.ofText t)[index]?.bind t.slice? := by
  rw [LineTable.getElem?_ofText]
  show ((TerminatedLine.ofText t)[index]?.map (·.content)) = _
  cases hline : (TerminatedLine.ofText t)[index]? with
  | none => rfl
  | some line => exact (LineTable.pointsAt_row hline).slice?_row.symm

/-- Replacing a line goes through the table. -/
theorem replaceLine?_eq_splice? (language t : Text) (index : Nat) (content : Text) :
    (ofText language t).replaceLine? index content =
      (LineTable.ofText t)[index]?.bind fun row => t.splice? row content := by
  rw [LineTable.getElem?_ofText, replaceLine?]
  show ((TerminatedLine.ofText t)[index]?.map fun line =>
    toText ((TerminatedLine.ofText t).set index { line with content })) = _
  cases hline : (TerminatedLine.ofText t)[index]? with
  | none => rfl
  | some line =>
      have hlt : index < (TerminatedLine.ofText t).length :=
        (List.getElem?_eq_some_iff.mp hline).1
      have hspliced := (LineTable.pointsAt_row hline).splice? content
      show some (toText ((TerminatedLine.ofText t).set index _)) = t.splice? _ content
      rw [hspliced, List.set_eq_take_append_cons_drop, if_pos hlt,
        TerminatedLine.toText_append, TerminatedLine.toText_cons, TerminatedLine.text]
      simp only [List.append_assoc]

/-- **A document is its text and a line table.** The table partitions the text into lines.
The lines of the document are counted by it, read by a slice of the text and replaced by a
splice, and put together with what stands between them they are the text. -/
theorem line_table_partitions (language text : Text) :
    let doc := ofText language text
    let table := LineTable.ofText text
    LineTable.Partitions text table ∧
    doc.text = text ∧
    doc.lineCount = table.length ∧
    (∀ index, doc.line? index = table[index]?.bind text.slice?) ∧
    ∀ index content,
      doc.replaceLine? index content = table[index]?.bind (text.splice? · content) := by
  intro doc table
  refine ⟨LineTable.partitions_ofText text, TerminatedLine.toText_ofText text, ?_, ?_, ?_⟩
  · exact (LineTable.length_ofText text).symm
  · exact line?_eq_slice? language text
  · exact replaceLine?_eq_splice? language text

end Document

end InlineChoice
