import InlineChoice.Document
import Mathlib.Data.List.Basic

/-!
# Laws of lines

Cutting a text into lines and putting lines together are inverse to each other
(`toText_ofText`, `ofText_toText`), the second on the lists of lines that cutting
leaves: these are the well-cut ones (`WellCut`).

A line can be exchanged in such a list if and only if it is proper with its new content
(`WellCut.set_iff`). This is so if the new content holds no line feed and ends with the
character with which the old one ended (`WellCut.set`). The last character matters because
a carriage return in front of a line feed would belong to the terminator from then on, and
because an empty content without a terminator is no line.
-/

namespace InlineChoice

namespace TerminatedLine

/-! ## Well-cut lines -/

/-- A line as it is cut from a text: there is no line feed in its content, nor a
carriage return in front of a bare line feed, and if nothing ends it, it is not empty. -/
def IsProper (line : TerminatedLine) : Prop :=
  '\n' ∉ line.content ∧
    match line.terminator with
    | .lineFeed => line.content.getLast? ≠ some '\r'
    | .carriageReturnLineFeed => True
    | .endOfText => line.content ≠ []

/-- Lines as they are cut from a text: proper ones, of which only the last may have no
terminator. -/
structure WellCut (lines : List TerminatedLine) : Prop where
  proper : ∀ line ∈ lines, line.IsProper
  ended : Terminator.endOfText ∉ (lines.map (·.terminator)).dropLast

theorem WellCut.nil : WellCut [] :=
  ⟨by simp, by simp⟩

theorem wellCut_cons_iff {line : TerminatedLine} {lines : List TerminatedLine} :
    WellCut (line :: lines) ↔
      line.IsProper ∧ (lines ≠ [] → line.terminator ≠ .endOfText) ∧ WellCut lines := by
  cases lines with
  | nil =>
      constructor
      · rintro ⟨hproper, -⟩
        exact ⟨hproper line (by simp), fun h => absurd rfl h, WellCut.nil⟩
      · rintro ⟨hproper, -, -⟩
        exact ⟨by simpa using hproper, by simp⟩
  | cons next rest =>
      constructor
      · rintro ⟨hproper, hended⟩
        simp only [List.map_cons, List.dropLast_cons_cons, List.mem_cons, not_or] at hended
        refine ⟨hproper line (by simp), fun _ => Ne.symm hended.1, ?_, ?_⟩
        · exact fun l hl => hproper l (List.mem_cons_of_mem line hl)
        · simpa using hended.2
      · rintro ⟨hline, hterm, hproper, hended⟩
        refine ⟨fun l hl => ?_, ?_⟩
        · rcases List.mem_cons.mp hl with rfl | hl
          · exact hline
          · exact hproper l hl
        · simp only [List.map_cons, List.dropLast_cons_cons, List.mem_cons, not_or]
          exact ⟨Ne.symm (hterm (by simp)), by simpa using hended⟩

/-- A character in front of a line, unless it would begin the terminator. -/
theorem IsProper.cons {line : TerminatedLine} (h : line.IsProper) {c : Char} (hfeed : c ≠ '\n')
    (hreturn : c = '\r' → line.content = [] → line.terminator ≠ .lineFeed) :
    IsProper { line with content := c :: line.content } := by
  obtain ⟨content, terminator⟩ := line
  obtain ⟨hnone, hends⟩ := h
  refine ⟨by simpa [hnone] using hfeed.symm, ?_⟩
  cases terminator with
  | lineFeed =>
      cases content with
      | nil => simpa using fun hc => hreturn hc rfl
      | cons d content => simpa using hends
  | carriageReturnLineFeed => trivial
  | endOfText => simp

/-! ## Cutting and putting together -/

@[simp] theorem toText_nil : toText [] = [] := rfl

@[simp] theorem toText_cons (line : TerminatedLine) (lines : List TerminatedLine) :
    toText (line :: lines) = line.text ++ toText lines := by
  simp [toText]

/-- The lines put together are the text. -/
theorem toText_ofText (t : Text) : toText (ofText t) = t := by
  fun_induction ofText t with
  | case1 => rfl
  | case2 rest ih => rw [toText_cons, ih]; rfl
  | case3 rest ih => rw [toText_cons, ih]; rfl
  | case4 c rest hfeed hreturn hnil ih =>
      rw [hnil] at ih
      simp [text, Terminator.text, ← ih]
  | case5 c rest hfeed hreturn line lines hcons ih =>
      rw [hcons, toText_cons] at ih
      rw [toText_cons, ← ih]
      rfl

/-- Cutting leaves well-cut lines. -/
theorem wellCut_ofText (t : Text) : WellCut (ofText t) := by
  fun_induction ofText t with
  | case1 => exact WellCut.nil
  | case2 rest ih => exact wellCut_cons_iff.mpr ⟨⟨by simp, by simp⟩, by simp, ih⟩
  | case3 rest ih => exact wellCut_cons_iff.mpr ⟨⟨by simp, trivial⟩, by simp, ih⟩
  | case4 c rest hfeed hreturn hnil ih =>
      exact wellCut_cons_iff.mpr ⟨⟨by simpa using Ne.symm hfeed, by simp⟩, by simp, WellCut.nil⟩
  | case5 c rest hfeed hreturn line lines hcons ih =>
      have hrest : line.text ++ toText lines = rest := by
        rw [← toText_cons, ← hcons, toText_ofText]
      rw [hcons, wellCut_cons_iff] at ih
      refine wellCut_cons_iff.mpr ⟨ih.1.cons hfeed fun hc hempty hterm => ?_, ih.2⟩
      rw [text, hempty, hterm] at hrest
      exact hreturn (toText lines) hc hrest.symm

/-- A character that is part of no terminator begins the content of the first line. -/
theorem ofText_cons {c : Char} {rest : Text} (hfeed : c ≠ '\n')
    (hreturn : c = '\r' → rest.head? ≠ some '\n') :
    ofText (c :: rest) =
      match ofText rest with
      | [] => [⟨[c], .endOfText⟩]
      | line :: lines => { line with content := c :: line.content } :: lines := by
  refine ofText.eq_4 c rest hfeed fun more hc hmore => ?_
  rw [hmore] at hreturn
  exact hreturn hc rfl

/-- The rest of a line behind its first character is a line, unless nothing is left. -/
theorem IsProper.tail {c : Char} {content : Text} {terminator : Terminator}
    (h : IsProper ⟨c :: content, terminator⟩)
    (hne : content = [] → terminator ≠ .endOfText) : IsProper ⟨content, terminator⟩ := by
  obtain ⟨hnone, hends⟩ := h
  refine ⟨fun hmem => hnone (List.mem_cons_of_mem c hmem), ?_⟩
  cases terminator with
  | lineFeed =>
      cases content with
      | nil => simp
      | cons d content => simpa using hends
  | carriageReturnLineFeed => trivial
  | endOfText => exact fun hnil => hne hnil rfl

/-- A line is cut off first, if something follows it only behind a terminator. -/
theorem ofText_text_append {line : TerminatedLine} (hproper : line.IsProper) {rest : Text}
    (hrest : line.terminator = .endOfText → rest = []) :
    ofText (line.text ++ rest) = line :: ofText rest := by
  obtain ⟨content, terminator⟩ := line
  induction content with
  | nil =>
      cases terminator with
      | lineFeed => rfl
      | carriageReturnLineFeed => rfl
      | endOfText => exact absurd rfl hproper.2
  | cons c content ih =>
      have hfeed : c ≠ '\n' := fun hc => hproper.1 (hc ▸ List.mem_cons_self)
      by_cases hlast : content = [] ∧ terminator = .endOfText
      · obtain ⟨rfl, rfl⟩ := hlast
        obtain rfl := hrest rfl
        exact ofText_cons hfeed (by simp [Terminator.text])
      · have hproper' := hproper.tail fun hnil hterm => hlast ⟨hnil, hterm⟩
        -- A carriage return here is no part of the terminator.
        have hreturn : c = '\r' →
            List.head? (text ⟨content, terminator⟩ ++ rest) ≠ some '\n' := by
          rintro rfl
          cases content with
          | cons d content =>
              have hd : d ≠ '\n' := fun hd => hproper.1 (by simp [hd])
              simpa [text] using hd
          | nil =>
              cases terminator with
              | lineFeed => exact absurd rfl hproper.2
              | carriageReturnLineFeed => simp [text, Terminator.text]
              | endOfText => exact absurd ⟨rfl, rfl⟩ hlast
        have hcut := ofText_cons hfeed hreturn
        rw [ih hproper' hrest] at hcut
        exact hcut

/-- Cutting gives back well-cut lines. -/
theorem ofText_toText {lines : List TerminatedLine} (h : WellCut lines) :
    ofText (toText lines) = lines := by
  induction lines with
  | nil => rfl
  | cons line lines ih =>
      obtain ⟨hproper, hterm, hrest⟩ := wellCut_cons_iff.mp h
      rw [toText_cons, ofText_text_append hproper, ih hrest]
      intro hend
      by_contra hne
      exact hterm (fun hnil => hne (by rw [hnil, toText_nil])) hend

/-! ## The end of a text -/

/-- Only the last line may have no terminator. -/
theorem WellCut.last_of_endOfText {lines : List TerminatedLine} (h : WellCut lines)
    {index : Nat} {line : TerminatedLine} (hline : lines[index]? = some line)
    (hend : line.terminator = .endOfText) : index + 1 = lines.length := by
  have hlt : index < lines.length := (List.getElem?_eq_some_iff.mp hline).1
  by_contra hne
  have hbefore : index < (lines.map (·.terminator)).length - 1 := by
    rw [List.length_map]
    omega
  have hget : (lines.map (·.terminator)).dropLast[index]? = some .endOfText := by
    rw [List.getElem?_dropLast, if_pos hbefore, List.getElem?_map, hline, ← hend]
    rfl
  exact h.ended (List.mem_of_getElem? hget)

theorem toText_append (lines others : List TerminatedLine) :
    toText (lines ++ others) = toText lines ++ toText others :=
  List.flatMap_append

theorem IsProper.text_ne_nil {line : TerminatedLine} (h : line.IsProper) : line.text ≠ [] := by
  obtain ⟨content, terminator⟩ := line
  cases terminator with
  | lineFeed => simp [text, Terminator.text]
  | carriageReturnLineFeed => simp [text, Terminator.text]
  | endOfText => simpa [text, Terminator.text] using h.2

/-- A line has a terminator if and only if it ends with a line feed. -/
theorem IsProper.getLast?_text_iff {line : TerminatedLine} (h : line.IsProper) :
    line.text.getLast? = some '\n' ↔ line.terminator ≠ .endOfText := by
  obtain ⟨content, terminator⟩ := line
  cases terminator with
  | lineFeed => simp [text, Terminator.text]
  | carriageReturnLineFeed => simp [text, Terminator.text]
  | endOfText =>
      have hfeed : content.getLast? ≠ some '\n' := fun hlast =>
        h.1 (List.mem_of_getLast? hlast)
      simpa [text, Terminator.text] using hfeed

/-- There is a line without a terminator if and only if the text goes on behind its last
line feed. -/
theorem WellCut.endOfText_mem_iff {lines : List TerminatedLine} (h : WellCut lines) :
    Terminator.endOfText ∈ lines.map (·.terminator) ↔
      ¬ (toText lines = [] ∨ (toText lines).getLast? = some '\n') := by
  rcases List.eq_nil_or_concat' lines with rfl | ⟨front, last, rfl⟩
  · simp
  · have hlast : last.IsProper := h.proper last (by simp)
    have hfront : Terminator.endOfText ∉ front.map (·.terminator) := by
      simpa using h.ended
    have htext : toText (front ++ [last]) = toText front ++ last.text := by
      simp [toText_append]
    have hends : (toText (front ++ [last])).getLast? = last.text.getLast? := by
      rw [htext, List.getLast?_append_of_ne_nil _ hlast.text_ne_nil]
    have hne : toText (front ++ [last]) ≠ [] := by
      simp [htext, hlast.text_ne_nil]
    rw [hends, hlast.getLast?_text_iff, List.map_append, List.mem_append]
    simp only [hfront, hne, List.map_cons, List.map_nil, List.mem_singleton, false_or, not_not]
    exact eq_comm

/-! ## Exchanging a line -/

/-- The line with its content changed and its terminator kept. -/
def mapContent (f : Text → Text) (line : TerminatedLine) : TerminatedLine :=
  { line with content := f line.content }

/-- A content that can stand in place of another one. -/
structure Fits (new old : Text) : Prop where
  no_feed : '\n' ∉ new
  last : new.getLast? = old.getLast?

theorem IsProper.of_fits {line : TerminatedLine} (h : line.IsProper) {content : Text}
    (hfits : Fits content line.content) : IsProper { line with content } := by
  obtain ⟨old, terminator⟩ := line
  refine ⟨hfits.no_feed, ?_⟩
  cases terminator with
  | lineFeed =>
      have hlast := h.2
      simpa [hfits.last] using hlast
  | carriageReturnLineFeed => trivial
  | endOfText =>
      rintro rfl
      have hlast := hfits.last
      exact h.2 (List.getLast?_eq_none_iff.mp hlast.symm)

/-- Another content leaves the terminators as they are. -/
theorem map_terminator_set {lines : List TerminatedLine} {index : Nat} {line : TerminatedLine}
    (hline : lines[index]? = some line) (content : Text) :
    (lines.set index { line with content }).map (·.terminator) =
      lines.map (·.terminator) := by
  have hterm : (lines.map (·.terminator))[index]? = some line.terminator := by
    rw [List.getElem?_map, hline, Option.map_some]
  obtain ⟨hlt, hget⟩ := List.getElem?_eq_some_iff.mp hterm
  rw [List.map_set, ← hget, List.set_getElem_self]

/-- Well-cut lines stay so with another content on one of them, if and only if this line
is proper. -/
theorem WellCut.set_iff {lines : List TerminatedLine} (h : WellCut lines) {index : Nat}
    {line : TerminatedLine} (hline : lines[index]? = some line) {content : Text} :
    WellCut (lines.set index { line with content }) ↔ IsProper { line with content } := by
  have hlt : index < lines.length := (List.getElem?_eq_some_iff.mp hline).1
  constructor
  · intro hset
    exact hset.proper _ (List.mem_set hlt _)
  · intro hproper
    refine ⟨?_, ?_⟩
    · intro l hl
      rcases List.mem_or_eq_of_mem_set hl with hl | rfl
      · exact h.proper l hl
      · exact hproper
    · rw [map_terminator_set hline]
      exact h.ended

/-- Well-cut lines stay so when one of them gets a content that fits in its place. -/
theorem WellCut.set {lines : List TerminatedLine} (h : WellCut lines) {index : Nat}
    {line : TerminatedLine} (hline : lines[index]? = some line) {content : Text}
    (hfits : Fits content line.content) :
    WellCut (lines.set index { line with content }) :=
  (h.set_iff hline).mpr ((h.proper line (List.mem_of_getElem? hline)).of_fits hfits)

end TerminatedLine

end InlineChoice
