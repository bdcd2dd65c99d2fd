import InlineChoice.Proofs.Scan

/-!
# Line endings

A line may end with a line feed or with a carriage return and a line feed, and a document
may be kept either way. `Text.withReturns` rewrites a text from the first form to the
second one. It moves every character behind the first line, but it changes nothing except
terminators (`TerminatedLine.ofText_withReturns`), so a scan finds the same on the same
lines, and every edit is the same edit.

An edit that is applied to either form gives the two forms of one text
(`Document.edited?_withReturns`): the new content stands in the same place and is no
terminator in itself.

A text that holds carriage returns already has lines of both forms, or lines that end with
a carriage return of their own, and is not considered.
-/

namespace InlineChoice

open TerminatedLine (WellCut)

/-! ## Texts -/

namespace Text

/-- A text with a carriage return in front of each line feed. -/
def withReturns (t : Text) : Text :=
  t.flatMap fun c => if c = '\n' then ['\r', '\n'] else [c]

theorem withReturns_append (s t : Text) :
    withReturns (s ++ t) = withReturns s ++ withReturns t :=
  List.flatMap_append

theorem withReturns_of_notMem {t : Text} (h : '\n' ∉ t) : withReturns t = t := by
  induction t with
  | nil => rfl
  | cons c t ih =>
      obtain ⟨hc, ht⟩ : '\n' ≠ c ∧ '\n' ∉ t := by simpa using h
      show (if c = '\n' then ['\r', '\n'] else [c]) ++ withReturns t = c :: t
      rw [if_neg hc.symm, ih ht]
      rfl

end Text

/-! ## Lines -/

/-- The terminator with a carriage return in front of a bare line feed. -/
def Terminator.withReturn : Terminator → Terminator
  | lineFeed => carriageReturnLineFeed
  | carriageReturnLineFeed => carriageReturnLineFeed
  | endOfText => endOfText

namespace TerminatedLine

/-- The line with another terminator and the same content. -/
def withReturn (line : TerminatedLine) : TerminatedLine :=
  { line with terminator := line.terminator.withReturn }

theorem text_withReturn {line : TerminatedLine} (hfeed : '\n' ∉ line.content)
    (hbare : line.terminator ≠ .carriageReturnLineFeed) :
    line.withReturn.text = line.text.withReturns := by
  obtain ⟨content, terminator⟩ := line
  rw [text, text, Text.withReturns_append, Text.withReturns_of_notMem hfeed]
  cases terminator with
  | lineFeed => rfl
  | carriageReturnLineFeed => exact absurd rfl hbare
  | endOfText => rfl

/-- Every line ends with a bare line feed or with the text, and holds no line feed. -/
def BareFeeds (lines : List TerminatedLine) : Prop :=
  ∀ line ∈ lines, '\n' ∉ line.content ∧ line.terminator ≠ .carriageReturnLineFeed

theorem toText_map_withReturn {lines : List TerminatedLine} (h : BareFeeds lines) :
    toText (lines.map withReturn) = Text.withReturns (toText lines) := by
  induction lines with
  | nil => rfl
  | cons line lines ih =>
      obtain ⟨hfeed, hbare⟩ := h line List.mem_cons_self
      have hrest : BareFeeds lines := fun l hl => h l (List.mem_cons_of_mem line hl)
      rw [List.map_cons, toText_cons, toText_cons, Text.withReturns_append, ih hrest,
        text_withReturn hfeed hbare]

/-- Other contents without a line feed leave the terminators bare. -/
theorem BareFeeds.set {lines : List TerminatedLine} (h : BareFeeds lines) {index : Nat}
    {line : TerminatedLine} (hline : lines[index]? = some line) {content : Text}
    (hcontent : '\n' ∉ content) : BareFeeds (lines.set index { line with content }) := by
  intro l hl
  rcases List.mem_or_eq_of_mem_set hl with hl | rfl
  · exact h l hl
  · exact ⟨hcontent, (h line (List.mem_of_getElem? hline)).2⟩

/-- A text without carriage returns is cut at bare line feeds. -/
theorem bareFeeds_ofText {t : Text} (h : '\r' ∉ t) : BareFeeds (ofText t) := by
  intro line hline
  refine ⟨((wellCut_ofText t).proper line hline).1, fun hterm => ?_⟩
  have hreturn : '\r' ∈ line.text := by simp [text, hterm, Terminator.text]
  have htext : '\r' ∈ toText (ofText t) := List.mem_flatMap.mpr ⟨line, hline, hreturn⟩
  rw [toText_ofText] at htext
  exact h htext

theorem IsProper.withReturn {line : TerminatedLine} (h : line.IsProper) :
    line.withReturn.IsProper := by
  obtain ⟨content, terminator⟩ := line
  cases terminator with
  | lineFeed => exact ⟨h.1, trivial⟩
  | carriageReturnLineFeed => exact h
  | endOfText => exact h

theorem WellCut.withReturn {lines : List TerminatedLine} (h : WellCut lines) :
    WellCut (lines.map withReturn) := by
  induction lines with
  | nil => exact WellCut.nil
  | cons line lines ih =>
      obtain ⟨hproper, hended, hrest⟩ := wellCut_cons_iff.mp h
      refine wellCut_cons_iff.mpr ⟨hproper.withReturn, fun hne hterm => ?_, ih hrest⟩
      have hlines : lines ≠ [] := fun hnil => hne (by rw [hnil, List.map_nil])
      have hline : line.terminator = .endOfText := by
        cases hform : line.terminator <;>
          simp [TerminatedLine.withReturn, hform, Terminator.withReturn] at hterm ⊢
      exact hended hlines hline

/-- **Only terminators change** when the line feeds of a text get carriage returns. -/
theorem ofText_withReturns {t : Text} (h : '\r' ∉ t) :
    ofText t.withReturns = (ofText t).map withReturn := by
  have htext : toText ((ofText t).map withReturn) = t.withReturns := by
    rw [toText_map_withReturn (bareFeeds_ofText h), toText_ofText]
  rw [← htext, ofText_toText (wellCut_ofText t).withReturn]

end TerminatedLine

/-! ## Documents -/

namespace Document

section WithReturns

variable {doc other : Document} (hlanguage : other.language = doc.language)
  (hlines : other.lines = doc.lines.map TerminatedLine.withReturn)

include hlines

theorem line?_withReturns (index : Nat) : other.line? index = doc.line? index := by
  rw [line?, line?, hlines, List.getElem?_map, Option.map_map]
  rfl

/-- An edit that writes no line feed gives the two forms of one text. -/
theorem edited?_withReturns (hbare : TerminatedLine.BareFeeds doc.lines) {edit : LineEdit}
    (hedit : '\n' ∉ edit.replacement) :
    other.edited? edit = (doc.edited? edit).map Text.withReturns := by
  rw [edited?, edited?, replaceLine?, replaceLine?, hlines, List.getElem?_map, Option.map_map,
    Option.map_map]
  refine Option.map_congr fun line hline => ?_
  have hset : (doc.lines.map TerminatedLine.withReturn).set edit.index
      { line.withReturn with content := edit.replacement } =
      (doc.lines.set edit.index { line with content := edit.replacement }).map
        TerminatedLine.withReturn := by
    rw [List.map_set]
    rfl
  show TerminatedLine.toText (List.set _ _ _) = Text.withReturns (TerminatedLine.toText _)
  rw [hset, TerminatedLine.toText_map_withReturn (hbare.set hline hedit)]

include hlanguage

theorem scan_withReturns [PatternEngine] (syn : CommentSyntax) : other.scan syn = doc.scan syn := by
  rw [scan_eq, scan_eq, hlines, hlanguage, List.zipIdx_map, List.filterMap_map]
  rfl

theorem editLine?_withReturns [PatternEngine] (syn : CommentSyntax) (index : Nat)
    (pick : Choice → Option Text) :
    other.editLine? syn index pick = doc.editLine? syn index pick :=
  editLine?_congr hlanguage (line?_withReturns hlines index) syn pick

end WithReturns

/-- **The form of line endings does not matter.** A text without carriage returns, and the
same text with one in front of each line feed, have the same lines, the same annotations on
them and the same edits. An edit that toggles a line, or sets it to a value that is written
without a line feed, can be applied to both, and then gives the two forms of one text. -/
theorem line_endings_agree [PatternEngine] (language : Text) (syn : CommentSyntax) {text : Text}
    (hbare : '\r' ∉ text) :
    let doc := ofText language text
    let other := ofText language text.withReturns
    other.lines.map (·.content) = doc.lines.map (·.content) ∧
    other.scan syn = doc.scan syn ∧
    (∀ index, other.toggle? syn index = doc.toggle? syn index) ∧
    (∀ index value, other.set? syn index value = doc.set? syn index value) ∧
    (∀ index edit, doc.toggle? syn index = some edit →
      ∃ edited, doc.edited? edit = some edited ∧
        other.edited? edit = some edited.withReturns) ∧
    ∀ index value edit, '\n' ∉ value.trim → doc.set? syn index value = some edit →
      ∃ edited, doc.edited? edit = some edited ∧
        other.edited? edit = some edited.withReturns := by
  intro doc other
  have hlanguage : other.language = doc.language := rfl
  have hlines : other.lines = doc.lines.map TerminatedLine.withReturn :=
    TerminatedLine.ofText_withReturns hbare
  have hfeeds : TerminatedLine.BareFeeds doc.lines := TerminatedLine.bareFeeds_ofText hbare
  have hcut : WellCut doc.lines := TerminatedLine.wellCut_ofText text
  have happly (s : Step) (hs : s.action.FeedFree) (edit : LineEdit)
      (hedit : s.edit? doc syn = some edit) :
      ∃ edited, doc.edited? edit = some edited ∧
        other.edited? edit = some edited.withReturns := by
    obtain ⟨edited, hedited⟩ := exists_edited_of_edit? hedit
    refine ⟨edited, hedited, ?_⟩
    rw [edited?_withReturns hlines hfeeds (feedFree_replacement hcut hs hedit), hedited]
    rfl
  refine ⟨?_, scan_withReturns hlanguage hlines syn, ?_, ?_, ?_, ?_⟩
  · rw [hlines, List.map_map]
    rfl
  · intro index
    exact editLine?_withReturns hlanguage hlines syn index Choice.nextValue?
  · intro index value
    exact editLine?_withReturns hlanguage hlines syn index fun _ => some value.trim
  · intro index
    exact happly ⟨index, .advance⟩ trivial
  · intro index value edit hvalue
    exact happly ⟨index, .set value⟩ hvalue edit

section

open scoped PatternEngine

/-- Three lines, an empty one among them and no terminator behind the last one, and a value
with a line feed around it. -/
theorem line_endings_agree_three_lines :
    let text := "x = 1 # [CB]: 1|0\n\ny =2# [CB]:2|3".toList
    let doc := ofText "python".toList text
    let other := ofText "python".toList (Text.withReturns text)
    let edit : LineEdit := ⟨2, "y =2# [CB]:2|3".toList, "y = 3 # [CB]:2|3".toList⟩
    '\r' ∉ text ∧ '\n' ∉ Text.trim " 3\n".toList ∧
    (other.scan .empty).map (·.index) = [0, 2] ∧
    other.toggle? .empty 0 = doc.toggle? .empty 0 ∧
    other.set? .empty 2 " 3\n".toList = some edit ∧
    doc.edited? edit = some "x = 1 # [CB]: 1|0\n\ny = 3 # [CB]:2|3".toList ∧
    other.edited? edit =
      some (Text.withReturns "x = 1 # [CB]: 1|0\n\ny = 3 # [CB]:2|3".toList) := by
  intro text doc other edit
  have hbare : '\r' ∉ text := by decide
  have hvalue : '\n' ∉ Text.trim " 3\n".toList := by decide
  obtain ⟨-, hscan, htoggle, hset, -, hwritten⟩ :=
    line_endings_agree "python".toList .empty hbare
  have hedit : doc.set? .empty 2 " 3\n".toList = some edit := by decide
  obtain ⟨edited, hedited, hother⟩ := hwritten 2 " 3\n".toList edit hvalue hedit
  have htext : doc.edited? edit = some "x = 1 # [CB]: 1|0\n\ny = 3 # [CB]:2|3".toList := by
    decide
  obtain rfl := Option.some.inj (hedited.symm.trans htext)
  refine ⟨hbare, hvalue, ?_, htoggle 0, (hset 2 _).trans hedit, htext, hother⟩
  rw [hscan]
  decide

end

end Document

end InlineChoice
