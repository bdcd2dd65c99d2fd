import InlineChoice.Proofs.Lines

/-!
# Replacing a line

A line of a text is a place that can be read and written. A write goes through the whole
text, which is put together and cut anew, so it obeys the laws of such a place only where
the new content does not move the cuts. `Document.lines_replaced_iff` says exactly where:
the line must be proper with its new content. `Document.replaceLine?_laws` are the laws:
what is written is read, everything else is kept, and the second of two writes wins.
-/

namespace InlineChoice

open TerminatedLine (WellCut IsProper)

namespace Document

variable {doc : Document} {index : Nat} {line : TerminatedLine}

/-- There is nothing to replace behind the last line. -/
theorem replaceLine?_eq_none (h : doc.lineCount ≤ index) (content : Text) :
    doc.replaceLine? index content = none := by
  have hline : doc.lines[index]? = none := List.getElem?_eq_none h
  rw [replaceLine?, hline]
  rfl

section Line

variable (hline : doc.lines[index]? = some line)

include hline

theorem replaceLine?_eq_some (content : Text) :
    doc.replaceLine? index content =
      some (TerminatedLine.toText (doc.lines.set index { line with content })) := by
  rw [replaceLine?, hline]
  rfl

/-- **Where a text is cut after a replacement.** The cuts stay in their places if and only
if the line is proper with its new content. -/
theorem lines_replaced_iff (hcut : WellCut doc.lines) (language : Text) {content replaced : Text}
    (hreplaced : doc.replaceLine? index content = some replaced) :
    (ofText language replaced).lines = doc.lines.set index { line with content } ↔
      IsProper { line with content } := by
  rw [replaceLine?_eq_some hline] at hreplaced
  have hnew : (ofText language replaced).lines = TerminatedLine.ofText
      (TerminatedLine.toText (doc.lines.set index { line with content })) := by
    rw [Option.some.inj hreplaced]
    rfl
  rw [hnew, ← hcut.set_iff hline]
  constructor
  · intro hsame
    rw [← hsame]
    exact TerminatedLine.wellCut_ofText _
  · intro hset
    exact TerminatedLine.ofText_toText hset

/-- A line that has been replaced is replaced as the old one would be. -/
theorem replaceLine?_set {new : Document} {content : Text}
    (hnew : new.lines = doc.lines.set index { line with content }) (again : Text) :
    new.replaceLine? index again = doc.replaceLine? index again := by
  have hlt : index < doc.lines.length := (List.getElem?_eq_some_iff.mp hline).1
  have hwritten : new.lines[index]? = some { line with content } := by
    rw [hnew, List.getElem?_set_self hlt]
  rw [replaceLine?_eq_some hwritten, replaceLine?_eq_some hline, hnew, List.set_set]

end Line

/-- **The laws of a line.** A content without a line feed can replace a line, unless it
ends in a carriage return in front of a bare line feed or is empty at the end of the text.
Then the new text has as many lines, the content on its line, all other lines as they were
and every terminator in its place; and a further replacement of the line does what it
would have done at first. A line that is not there cannot be replaced. -/
theorem replaceLine?_laws (language text : Text) (index : Nat) (content : Text) :
    let doc := ofText language text
    (doc.lineCount ≤ index → doc.replaceLine? index content = none) ∧
    ∀ line, doc.lines[index]? = some line → '\n' ∉ content →
      (line.terminator = .lineFeed → content.getLast? ≠ some '\r') →
      (line.terminator = .endOfText → content ≠ []) →
      ∃ replaced, doc.replaceLine? index content = some replaced ∧
        let new := ofText language replaced
        new.lineCount = doc.lineCount ∧
        new.line? index = some content ∧
        (∀ other, other ≠ index → new.line? other = doc.line? other) ∧
        new.lines.map (·.terminator) = doc.lines.map (·.terminator) ∧
        ∀ again, new.replaceLine? index again = doc.replaceLine? index again := by
  intro doc
  refine ⟨fun h => replaceLine?_eq_none h content, ?_⟩
  intro line hline hfeed hreturn hend
  have hproper : IsProper { line with content } := by
    refine ⟨hfeed, ?_⟩
    cases hterm : line.terminator with
    | lineFeed => exact hreturn hterm
    | carriageReturnLineFeed => trivial
    | endOfText => exact hend hterm
  have hreplaced := replaceLine?_eq_some hline content
  have hcut : WellCut doc.lines := TerminatedLine.wellCut_ofText text
  have hlt : index < doc.lines.length := (List.getElem?_eq_some_iff.mp hline).1
  refine ⟨_, hreplaced, ?_⟩
  intro new
  have hnew : new.lines = doc.lines.set index { line with content } :=
    (lines_replaced_iff hline hcut language hreplaced).mpr hproper
  have hterm := TerminatedLine.map_terminator_set hline content
  refine ⟨?_, ?_, ?_, ?_, replaceLine?_set hline hnew⟩
  · rw [lineCount, hnew, List.length_set]
    rfl
  · rw [line?, hnew, List.getElem?_set_self hlt]
    rfl
  · intro other hother
    rw [line?, line?, hnew, List.getElem?_set_ne (Ne.symm hother)]
  · rw [hnew, hterm]

/-- A carriage return alone, in front of a carriage return and a line feed. -/
theorem replaceLine?_laws_carriage_return :
    let doc := ofText "t".toList "a\r\r\nb\nc".toList
    let new := ofText "t".toList "\r\r\nb\nc".toList
    doc.lines[0]? = some ⟨"a\r".toList, .carriageReturnLineFeed⟩ ∧
    doc.replaceLine? 0 "\r".toList = some new.text ∧
    new.lineCount = doc.lineCount ∧ new.line? 0 = some "\r".toList ∧
    ∀ again, new.replaceLine? 0 again = doc.replaceLine? 0 again := by
  intro doc new
  have hline : doc.lines[0]? = some ⟨"a\r".toList, .carriageReturnLineFeed⟩ := rfl
  obtain ⟨replaced, hreplaced, hcount, hwritten, -, -, hagain⟩ :=
    (replaceLine?_laws "t".toList "a\r\r\nb\nc".toList 0 "\r".toList).2 _ hline
      (by decide) (by decide) (by decide)
  have htext : doc.replaceLine? 0 "\r".toList = some new.text := rfl
  obtain rfl : replaced = "\r\r\nb\nc".toList := Option.some.inj (hreplaced.symm.trans htext)
  exact ⟨hline, htext, hcount, hwritten, hagain⟩

end Document

end InlineChoice
