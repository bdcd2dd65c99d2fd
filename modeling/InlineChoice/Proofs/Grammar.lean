import InlineChoice.Proofs.Annotation
import InlineChoice.Proofs.PatternText

/-!
# The grammar of annotated lines

This module says which lines are annotated without saying how they are read. A line
is cut at a marker (`Grammar.MarkerAt`); where the list of the marker begins is a
matter of the white space behind the tag (`Grammar.ListBegins`), and where it ends
is a matter of length (`Grammar.IsLongest`). `parseWith?_grammar` says that the
reader accepts the lines of the grammar and no others, and reads off them what the
grammar describes.

White space behind the tag and the characters of a segment overlap, so a text may
be cut in several ways. The two clauses of `ListBegins` and the two maximality
conditions of `IsLongest` leave one of them, and the reader finds it without trying
the others: `listStart?_eq_some_iff` and `isLongest_iff` are the two halves of the
argument.
-/

namespace InlineChoice

namespace Grammar

open CandidateList (isSegmentChar_iff take_cons_of_segmentChar take_bar_cons take_segment_append)
open Text (AllBlank isBlank)

/-! ## Lists of segments -/

/-- A segment is a run of characters other than bars and line feeds, and not empty. -/
structure IsSegment (s : Text) : Prop where
  ne_nil : s ≠ []
  inside : ∀ c ∈ s, c ≠ '|' ∧ c ≠ '\n'

/-- Segments with bars between them stand at the head of a text, in front of a tail.
Each is a maximal run: it ends at a bar, and the last one at a bar, at a line feed or
where the text ends. -/
structure StandAt (segments : List Text) (tail t : Text) : Prop where
  eq_append : t = Text.join ['|'] segments ++ tail
  ne_nil : segments ≠ []
  isSegment : ∀ s ∈ segments, IsSegment s
  maximal : ∀ c, tail.head? = some c → c = '|' ∨ c = '\n'

/-- Among all lists that stand at the head of a text, this one leaves the shortest tail. -/
structure IsLongest (segments : List Text) (tail t : Text) : Prop
    extends StandAt segments tail t where
  longest : ∀ segments' tail', StandAt segments' tail' t → tail.length ≤ tail'.length

/-- A list begins with the first character of its first segment. -/
theorem exists_cons_join {segments : List Text} (hne : segments ≠ [])
    (hseg : ∀ s ∈ segments, IsSegment s) :
    ∃ c more, Text.join ['|'] segments = c :: more ∧ c ≠ '|' ∧ c ≠ '\n' := by
  obtain ⟨s, others, rfl⟩ := List.exists_cons_of_ne_nil hne
  have hs := hseg s List.mem_cons_self
  obtain ⟨c, rest, rfl⟩ := List.exists_cons_of_ne_nil hs.ne_nil
  have hc := hs.inside c List.mem_cons_self
  cases others with
  | nil => exact ⟨c, rest, List.intercalate_singleton, hc⟩
  | cons u others => exact ⟨c, _, by rw [Text.join, List.intercalate_cons_cons]; rfl, hc⟩

theorem join_cons_cons (s s' : Text) (others : List Text) :
    Text.join ['|'] (s :: s' :: others) = s ++ '|' :: Text.join ['|'] (s' :: others) := by
  rw [Text.join, List.intercalate_cons_cons, List.append_assoc, List.singleton_append, Text.join]

/-- The segments of a list are its pieces. -/
theorem StandAt.pieces_join {segments : List Text} {tail t : Text}
    (h : StandAt segments tail t) :
    Text.pieces '|' (Text.join ['|'] segments) = segments :=
  Text.pieces_join h.ne_nil fun s hs hbar => ((h.isSegment s hs).inside _ hbar).1 rfl

/-! ## What the reader takes -/

/-- The reader takes every list that stands at the head of a text. -/
theorem take_join_append {segments : List Text} (hne : segments ≠ [])
    (hseg : ∀ s ∈ segments, IsSegment s) (t : Text) :
    CandidateList.take (Text.join ['|'] segments ++ t) =
      (Text.join ['|'] segments ++ (CandidateList.take t).1, (CandidateList.take t).2) := by
  induction segments with
  | nil => exact absurd rfl hne
  | cons s others ih =>
      have hs := (hseg s List.mem_cons_self).inside
      cases others with
      | nil =>
          rw [show Text.join ['|'] [s] = s from List.intercalate_singleton]
          exact take_segment_append hs t
      | cons s' others =>
          have hother : ∀ u ∈ s' :: others, IsSegment u :=
            fun u hu => hseg u (List.mem_cons_of_mem s hu)
          obtain ⟨c, more, hjoin, hc⟩ := exists_cons_join (List.cons_ne_nil s' others) hother
          have ih := ih (List.cons_ne_nil s' others) hother
          rw [join_cons_cons, List.append_assoc, take_segment_append hs]
          rw [hjoin, List.cons_append] at ih ⊢
          rw [List.cons_append, take_bar_cons hc, ih]
          simp

/-- A list that begins with a segment character does not begin with an empty run. -/
theorem ne_nil_of_take_eq_join {c : Char} (hc : c ≠ '|' ∧ c ≠ '\n') {t run : Text}
    {others : List Text}
    (h : (CandidateList.take (c :: t)).1 = Text.join ['|'] (run :: others)) : run ≠ [] := by
  rintro rfl
  rw [take_cons_of_segmentChar hc] at h
  cases others with
  | nil => cases h
  | cons u others =>
      rw [join_cons_cons] at h
      exact hc.1 (List.cons.inj h).1

/-- What the reader takes is a run of segment characters, which may be empty, and
segments behind bars. -/
theorem exists_take_eq_join (t : Text) :
    ∃ run others, (CandidateList.take t).1 = Text.join ['|'] (run :: others) ∧
      (∀ c ∈ run, c ≠ '|' ∧ c ≠ '\n') ∧ (∀ s ∈ others, IsSegment s) ∧
      ∀ c, (CandidateList.take t).2.head? = some c → c = '|' ∨ c = '\n' := by
  induction t with
  | nil => exact ⟨[], [], rfl, by simp, by simp, by simp [CandidateList.take]⟩
  | cons c t ih =>
      rw [CandidateList.take]
      split
      · next hfeed =>
          refine ⟨[], [], rfl, by simp, by simp, fun d hd => Or.inr ?_⟩
          simpa [hfeed] using hd.symm
      split
      · next hstop =>
          refine ⟨[], [], rfl, by simp, by simp, fun d hd => Or.inl ?_⟩
          obtain ⟨rfl, -⟩ : c = '|' ∧ _ := by simpa using hstop
          simpa using hd.symm
      next hfeed hgoes =>
      obtain ⟨run, others, hjoin, hrun, hothers, hmax⟩ := ih
      by_cases hbar : c = '|'
      · -- The run behind a bar that was taken is a segment.
        subst hbar
        obtain ⟨d, rest, rfl, hd⟩ : ∃ d rest, t = d :: rest ∧ d ≠ '|' ∧ d ≠ '\n' := by
          cases t with
          | nil => simp at hgoes
          | cons d rest => exact ⟨d, rest, rfl, isSegmentChar_iff.mp (by simpa using hgoes)⟩
        have hsegment : IsSegment run := ⟨ne_nil_of_take_eq_join hd hjoin, hrun⟩
        refine ⟨[], run :: others, ?_, by simp, ?_, hmax⟩
        · rw [join_cons_cons, ← hjoin]
          rfl
        · intro s hs
          rcases List.mem_cons.mp hs with rfl | hs
          · exact hsegment
          · exact hothers s hs
      · refine ⟨c :: run, others, ?_, ?_, hothers, hmax⟩
        · rw [hjoin]
          cases others with
          | nil => simp [Text.join]
          | cons u others => rw [join_cons_cons, join_cons_cons]; rfl
        · intro d hd
          rcases List.mem_cons.mp hd with rfl | hd
          · exact ⟨hbar, hfeed⟩
          · exact hrun d hd

/-- From the first character of a segment on, the reader takes a list. -/
theorem exists_standAt_take {c : Char} (hc : c ≠ '|' ∧ c ≠ '\n') (t : Text) :
    ∃ segments, (CandidateList.take (c :: t)).1 = Text.join ['|'] segments ∧
      StandAt segments (CandidateList.take (c :: t)).2 (c :: t) := by
  obtain ⟨run, others, hjoin, hrun, hothers, hmax⟩ := exists_take_eq_join (c :: t)
  refine ⟨run :: others, hjoin, ?_, List.cons_ne_nil run others, ?_, hmax⟩
  · rw [← hjoin, CandidateList.take_append]
  · intro s hs
    rcases List.mem_cons.mp hs with rfl | hs
    · exact ⟨ne_nil_of_take_eq_join hc hjoin, hrun⟩
    · exact hothers s hs

/-- The list that the reader takes is the longest one, and its segments are its pieces. -/
theorem isLongest_iff {c : Char} (hc : c ≠ '|' ∧ c ≠ '\n') (t : Text) {segments : List Text}
    {tail : Text} :
    IsLongest segments tail (c :: t) ↔
      CandidateList.take (c :: t) = (Text.join ['|'] segments, tail) ∧
        Text.pieces '|' (CandidateList.take (c :: t)).1 = segments := by
  obtain ⟨taken, hjoin, hstand⟩ := exists_standAt_take hc t
  -- Whatever list stands at the head of the text, the reader takes it first.
  have htake : ∀ {segments tail}, StandAt segments tail (c :: t) →
      CandidateList.take (c :: t) =
        (Text.join ['|'] segments ++ (CandidateList.take tail).1, (CandidateList.take tail).2) := by
    intro segments tail h
    rw [h.eq_append]
    exact take_join_append h.ne_nil h.isSegment tail
  have hshorter : ∀ {segments tail}, StandAt segments tail (c :: t) →
      (CandidateList.take (c :: t)).2.length + (CandidateList.take tail).1.length =
        tail.length := by
    intro segments tail h
    rw [htake h, Nat.add_comm, ← List.length_append, CandidateList.take_append]
  constructor
  · rintro ⟨h, hlongest⟩
    have hle := hlongest taken _ hstand
    have hlen := hshorter h
    have hnil : (CandidateList.take tail).1 = [] := List.length_eq_zero_iff.mp (by omega)
    have htail : (CandidateList.take tail).2 = tail := by
      simpa [hnil] using CandidateList.take_append tail
    rw [htake h, hnil, htail, List.append_nil]
    exact ⟨rfl, h.pieces_join⟩
  · rintro ⟨h, rfl⟩
    rw [hjoin, hstand.pieces_join]
    rw [h] at hstand
    refine ⟨hstand, fun segments' tail' h' => ?_⟩
    have hlen := hshorter h'
    rw [h] at hlen
    simp only at hlen
    omega

/-! ## Where a list begins -/

/-- Where the list begins in the text behind a tag: after `blanks`, with the first
character of `body`. This is the first character that is not white space, unless it
is a bar or there is none. In that case it is the last white-space character in front
of that place that is not a line feed. -/
inductive ListBegins : (blanks body : Text) → Prop
  | atText {blanks rest : Text} {c : Char} (blank : AllBlank blanks)
      (text : isBlank c = false) (no_bar : c ≠ '|') : ListBegins blanks (c :: rest)
  | atBlank {blanks feeds rest : Text} {c : Char} (blank : AllBlank (blanks ++ c :: feeds))
      (no_feed : c ≠ '\n') (feed : ∀ d ∈ feeds, d = '\n')
      (ends : rest = [] ∨ rest.head? = some '|') : ListBegins blanks (c :: (feeds ++ rest))

/-- A list begins with a character of a segment. -/
theorem ListBegins.exists_cons {blanks body : Text} (h : ListBegins blanks body) :
    ∃ c rest, body = c :: rest ∧ c ≠ '|' ∧ c ≠ '\n' := by
  cases h with
  | @atText rest c blank text no_bar =>
      refine ⟨c, rest, rfl, no_bar, ?_⟩
      rintro rfl
      revert text
      decide
  | @atBlank feeds rest c blank no_feed feed ends =>
      refine ⟨c, _, rfl, ?_, no_feed⟩
      rintro rfl
      have hbar := blank '|' (by simp)
      revert hbar
      decide

/-- The reader begins the list where the grammar says. -/
theorem listStart?_eq_some_iff {t blanks body : Text} :
    Marker.listStart? t = some (blanks, body) ↔ t = blanks ++ body ∧ ListBegins blanks body := by
  constructor
  · intro h
    refine ⟨(Marker.listStart?_append h).symm, ?_⟩
    have hrun := Text.allBlank_takeWhile t
    simp only [Marker.listStart?] at h
    split at h
    · next hfirst =>
        cases h
        obtain ⟨c, rest, hrest⟩ : ∃ c rest, t.dropWhile isBlank = c :: rest := by
          cases hrest : t.dropWhile isBlank with
          | nil => simp [hrest] at hfirst
          | cons c rest => exact ⟨c, rest, rfl⟩
        have hc := List.head?_dropWhile_not isBlank t
        rw [hrest] at hc hfirst ⊢
        exact ListBegins.atText hrun (by simpa using hc) (by simpa using hfirst)
    · next hfirst =>
        obtain ⟨last, hlast, hpair⟩ := Option.map_eq_some_iff.mp h
        obtain ⟨feeds, hsplit, hfeed, hkept⟩ :=
          Text.exists_dropEndWhile (· = '\n') (t.takeWhile isBlank)
        obtain ⟨front, hfront⟩ := List.getLast?_eq_some_iff.mp hlast
        have hlastfeed := hkept last hlast
        generalize Text.dropEndWhile (· = '\n') (t.takeWhile isBlank) = kept at *
        subst hfront
        have htext : t = front ++ [last] ++ (feeds ++ t.dropWhile isBlank) := by
          rw [← List.append_assoc, ← hsplit, List.takeWhile_append_dropWhile]
        have hdrop : t.drop (front ++ [last]).length = feeds ++ t.dropWhile isBlank := by
          rw [congrArg (List.drop (front ++ [last]).length) htext, List.drop_left]
        rw [hdrop, List.dropLast_concat] at hpair
        cases hpair
        refine ListBegins.atBlank ?_ (by simpa using hlastfeed) (by simpa using hfeed) ?_
        · rw [hsplit] at hrun
          simpa using hrun
        · cases hrest : t.dropWhile isBlank with
          | nil => exact Or.inl rfl
          | cons c rest => exact Or.inr (by simpa [hrest] using hfirst)
  · rintro ⟨rfl, h⟩
    cases h with
    | @atText rest c blank text no_bar =>
        have hhead : ∀ d, (c :: rest).head? = some d → isBlank d = false := by
          rintro d hd
          obtain rfl : c = d := by simpa using hd
          exact text
        simp only [Marker.listStart?, Text.takeWhile_run blank hhead,
          Text.dropWhile_run blank hhead]
        rw [if_pos (by simpa using no_bar)]
    | @atBlank feeds rest c blank no_feed feed ends =>
        have hbar : isBlank '|' = false := by decide
        have hhead : ∀ d, rest.head? = some d → isBlank d = false := by
          intro d hd
          rcases ends with rfl | hend
          · cases hd
          · rw [hend] at hd
            rwa [← Option.some.inj hd]
        have hfirst : rest.head?.any (· ≠ '|') = false := by
          rcases ends with rfl | hend
          · rfl
          · simp [hend]
        have htext : blanks ++ c :: (feeds ++ rest) = blanks ++ c :: feeds ++ rest := by simp
        have hkept := Text.dropEndWhile_concat_run (p := (· = '\n')) blanks
          (by simpa using no_feed) (by simpa using feed)
        simp only [Marker.listStart?]
        rw [htext, Text.takeWhile_run blank hhead, Text.dropWhile_run blank hhead, hfirst,
          if_neg Bool.false_ne_true, hkept]
        simp

/-! ## Where a marker stands -/

/-- A marker of a token stands behind `head` in a line: the token, white space, the
tag, and a place behind the tag where a list begins. -/
structure MarkerAt (token line head gap blanks body : Text) : Prop where
  line_eq : line = head ++ token ++ gap ++ Marker.tag ++ (blanks ++ body)
  gap_blank : AllBlank gap
  begins : ListBegins blanks body

/-- No marker of the token stands at a byte position in front of this one. -/
structure LeftmostAt (token line head gap blanks body : Text) : Prop
    extends MarkerAt token line head gap blanks body where
  leftmost : ∀ head' gap' blanks' body', MarkerAt token line head' gap' blanks' body' →
    head.byteSize ≤ head'.byteSize

/-- Where a marker stands, the reader reads it. -/
theorem MarkerAt.readAt? {token : CommentToken} {line head gap blanks body : Text}
    (h : MarkerAt token.text line head gap blanks body) :
    ∃ rest, line = head ++ rest ∧
      Marker.readAt? token rest = some (Marker.ofParts token gap blanks body) := by
  obtain ⟨rfl, hgap, hbegins⟩ := h
  refine ⟨token.text ++ gap ++ Marker.tag ++ (blanks ++ body), by simp only [List.append_assoc], ?_⟩
  exact Marker.readAt?_eq_some_iff.mpr ⟨gap, blanks, body, hgap, rfl,
    listStart?_eq_some_iff.mpr ⟨rfl, hbegins⟩, rfl⟩

/-- Where the reader reads a marker, one stands. -/
theorem exists_markerAt {token : CommentToken} {rest : Text} {m : Marker}
    (h : Marker.readAt? token rest = some m) (head : Text) :
    ∃ gap blanks body, MarkerAt token.text (head ++ rest) head gap blanks body ∧
      m = Marker.ofParts token gap blanks body := by
  obtain ⟨gap, blanks, body, hgap, rfl, hstart, rfl⟩ := Marker.readAt?_eq_some_iff.mp h
  exact ⟨gap, blanks, body,
    ⟨by simp only [List.append_assoc], hgap, (listStart?_eq_some_iff.mp hstart).2⟩, rfl⟩

/-- The search finds the marker with the least byte position. -/
theorem find?_eq_some_iff_leftmostAt {token : CommentToken} {line head : Text} {m : Marker} :
    Marker.find? token line = some (head, m) ↔
      ∃ gap blanks body, LeftmostAt token.text line head gap blanks body ∧
        m = Marker.ofParts token gap blanks body := by
  rw [Marker.find?_eq_some_iff]
  constructor
  · rintro ⟨rfl, hstands, hnone⟩
    obtain ⟨gap, blanks, body, hat, hm⟩ := exists_markerAt hstands head
    refine ⟨gap, blanks, body, ⟨hat, fun head' gap' blanks' body' hat' => ?_⟩, hm⟩
    obtain ⟨rest, hline, hread⟩ := hat'.readAt?
    rcases List.append_eq_append_iff.mp hline with ⟨more, rfl, -⟩ | ⟨place, rfl, rfl⟩
    · simp
    · by_cases hplace : place = []
      · simp [hplace]
      · rw [hnone place (List.suffix_append head' place) hplace] at hread
        cases hread
  · rintro ⟨gap, blanks, body, ⟨hat, hleftmost⟩, rfl⟩
    obtain ⟨rest, rfl, hread⟩ := hat.readAt?
    have hrest := Marker.span_append_tail hread
    refine ⟨by rw [hrest], ⟨by rw [hrest, hread], fun place hplace hne => ?_⟩⟩
    obtain ⟨before, rfl⟩ := hplace
    rw [hrest]
    by_contra hsome
    obtain ⟨m', hread'⟩ := Option.ne_none_iff_exists'.mp hsome
    obtain ⟨gap', blanks', body', hat', -⟩ := exists_markerAt hread' before
    rw [← List.append_assoc] at hat'
    have hle := hleftmost before gap' blanks' body' hat'
    have hpos := Text.byteSize_pos hne
    rw [Text.byteSize_append] at hle
    omega

/-! ## What a line declares -/

/-- A line cut at a marker: the text in front of it, the white space on both sides of
the tag, the segments of the list, and the text behind the list. -/
structure Cut where
  head : Text
  gap : Text
  blanks : Text
  segments : List Text
  tail : Text

namespace Cut

/-- The list with its bars. -/
def list (cut : Cut) : Text :=
  Text.join ['|'] cut.segments

/-- The text of the marker. -/
def marker (cut : Cut) (token : Text) : Text :=
  token ++ cut.gap ++ Marker.tag ++ cut.blanks ++ cut.list

/-- The trimmed segments that are not empty, in order. -/
def candidates (cut : Cut) : List Text :=
  (cut.segments.map Text.trim).filter (· ≠ [])

/-- The cut is made at the leftmost marker and around its longest list. -/
structure IsCutOf (cut : Cut) (token line : Text) : Prop where
  leftmost : LeftmostAt token line cut.head cut.gap cut.blanks (cut.list ++ cut.tail)
  longest : IsLongest cut.segments cut.tail (cut.list ++ cut.tail)

/-- The assignment in front of the marker: there is none without an `=` sign; otherwise
the target ends with the first run of these signs and the value is the rest, trimmed. -/
def Assigns (cut : Cut) : Option Assignment → Prop
  | none => '=' ∉ cut.head
  | some asg => ∃ rest, cut.head = asg.target ++ rest ∧ Assignment.IsTarget asg.target ∧
      rest.head? ≠ some '=' ∧ asg.value = rest.trim ∧
      asg.valueStart = asg.target.byteSize + Text.byteSize (rest.takeWhile isBlank)

/-- The annotation that a cut describes. -/
structure Describes (cut : Cut) (token : CommentToken) (a : Choice) : Prop where
  token_eq : a.token = token
  candidates_eq : a.candidates = cut.candidates
  marker_eq : a.marker = cut.marker token.text
  markerRange_eq : a.markerRange =
    ⟨cut.head.byteSize, Text.byteSize (cut.head ++ cut.marker token.text)⟩
  assigns : cut.Assigns a.assignment

theorem candidates_ne_nil_iff (cut : Cut) :
    cut.candidates ≠ [] ↔ ∃ s ∈ cut.segments, s.trim ≠ [] := by
  simp [candidates, List.filter_eq_nil_iff]

theorem assigns_iff (cut : Cut) (assignment : Option Assignment) :
    cut.Assigns assignment ↔ Assignment.ofHead? cut.head = assignment := by
  cases assignment with
  | none =>
      simp only [Assigns, Assignment.ofHead?, ite_eq_left_iff, reduceCtorEq, imp_false, not_not,
        List.dropWhile_eq_nil_iff, decide_eq_true_eq]
      exact ⟨fun h c hc heq => h (heq ▸ hc), fun h hmem => h '=' hmem rfl⟩
  | some asg =>
      constructor
      · rintro ⟨rest, hhead, htarget, hrest, hvalue, hstart⟩
        rw [hhead, Assignment.ofHead?_target_append htarget hrest, ← hvalue, ← hstart]
      · intro h
        obtain ⟨rest, hhead, htarget, hrest, hvalue, hstart⟩ :=
          Assignment.exists_target_of_ofHead? h
        exact ⟨rest, hhead, htarget, hrest, hvalue, hstart⟩

/-- The search finds the marker of the one cut that the grammar allows. -/
theorem find?_eq_some_iff {token : CommentToken} {line head : Text} {m : Marker} :
    Marker.find? token line = some (head, m) ↔
      ∃ cut : Cut, cut.IsCutOf token.text line ∧ head = cut.head ∧
        m = ⟨cut.marker token.text, cut.list, cut.tail⟩ := by
  rw [find?_eq_some_iff_leftmostAt]
  constructor
  · rintro ⟨gap, blanks, body, hleftmost, rfl⟩
    obtain ⟨c, rest, rfl, hc⟩ := hleftmost.begins.exists_cons
    obtain ⟨segments, hjoin, hstand⟩ := exists_standAt_take hc rest
    have hpieces : Text.pieces '|' (CandidateList.take (c :: rest)).1 = segments := by
      rw [hjoin]
      exact hstand.pieces_join
    have hlongest := (isLongest_iff hc rest).mpr ⟨Prod.ext hjoin rfl, hpieces⟩
    refine ⟨⟨head, gap, blanks, segments, (CandidateList.take (c :: rest)).2⟩,
      ⟨?_, ?_⟩, rfl, ?_⟩
    · simpa only [list, ← hstand.eq_append] using hleftmost
    · simpa only [list, ← hstand.eq_append] using hlongest
    · simp only [Marker.ofParts, marker, list, hjoin]
  · rintro ⟨cut, ⟨hleftmost, hlongest⟩, rfl, rfl⟩
    refine ⟨cut.gap, cut.blanks, _, hleftmost, ?_⟩
    obtain ⟨c, rest, hbody, hc⟩ := hleftmost.begins.exists_cons
    rw [hbody] at hlongest ⊢
    obtain ⟨htake, -⟩ := (isLongest_iff hc rest).mp hlongest
    simp only [Marker.ofParts, marker, list, htake]

theorem IsCutOf.candidates_eq {cut : Cut} {token line : Text} (h : cut.IsCutOf token line) :
    CandidateList.candidates cut.list = cut.candidates := by
  rw [CandidateList.candidates, list, h.longest.toStandAt.pieces_join, candidates]

/-- A cut describes one annotation. -/
theorem describes_iff {cut : Cut} {token : CommentToken} {a : Choice} :
    cut.Describes token a ↔
      a = ⟨token, Assignment.ofHead? cut.head, cut.candidates, cut.marker token.text,
        cut.head.byteSize⟩ := by
  constructor
  · rintro ⟨htoken, hcand, hmarker, hrange, hassigns⟩
    have hstart : a.markerStart = cut.head.byteSize := congrArg ByteRange.start hrange
    rw [(assigns_iff cut a.assignment).mp hassigns, ← hmarker, ← htoken, ← hcand, ← hstart]
  · rintro rfl
    exact ⟨rfl, rfl, rfl, by rw [Text.byteSize_append]; rfl, (assigns_iff cut _).mpr rfl⟩

end Cut

end Grammar

/-- **The reader accepts the grammar.** For every line and every token whose pattern
compiles, the reader finds an annotation if and only if the line can be cut at a leftmost
marker whose list has a segment that is not blank; and what it finds is what the cut
describes. The pattern is the one that the text `Marker.patternText` spells, and the marker
is its first match in the order of preference, the leftmost place first. -/
theorem Choice.parseWith?_grammar [PatternEngine] (token : CommentToken)
    (compiles : Marker.compiles token.text) (line : Text) :
    ((parseWith? token.text line).isSome ↔
      ∃ cut : Grammar.Cut, cut.IsCutOf token.text line ∧ ∃ s ∈ cut.segments, s.trim ≠ []) ∧
    (∀ a, parseWith? token.text line = some a ↔
      ∃ cut : Grammar.Cut, cut.IsCutOf token.text line ∧ (∃ s ∈ cut.segments, s.trim ≠ []) ∧
        cut.Describes token a) ∧
    Pattern.read? [.unicode] (Marker.patternText token.text) =
      some ((Marker.pattern token.text).map .character) ∧
    (∀ t, (Marker.pattern token.text).ways t =
      (Marker.matchesAt token.text t).map fun m => ⟨m.span, m.tail⟩) ∧
    Marker.find? token line = Pattern.leftmost? (Marker.matchesAt token.text) line := by
  have hread : ∀ a, parseWith? token.text line = some a ↔
      ∃ cut : Grammar.Cut, cut.IsCutOf token.text line ∧ (∃ s ∈ cut.segments, s.trim ≠ []) ∧
        cut.Describes token a := by
    intro a
    rw [parseWith?_text_eq_some_iff, and_iff_right compiles, parse?_eq_some_iff]
    simp only [Grammar.Cut.find?_eq_some_iff, Grammar.Cut.describes_iff,
      ← Grammar.Cut.candidates_ne_nil_iff]
    constructor
    · rintro ⟨head, m, ⟨cut, hcut, rfl, rfl⟩, hne, rfl⟩
      simp only [Marker.candidates, hcut.candidates_eq] at hne ⊢
      exact ⟨cut, hcut, hne, rfl⟩
    · rintro ⟨cut, hcut, hne, rfl⟩
      refine ⟨_, _, ⟨cut, hcut, rfl, rfl⟩, ?_, ?_⟩
      · rwa [Marker.candidates, hcut.candidates_eq]
      · rw [Marker.candidates, hcut.candidates_eq]
  refine ⟨?_, hread, Pattern.read?_patternText token.text, Marker.ways_pattern token.text,
    Marker.find?_eq_leftmost? token line⟩
  simp only [Option.isSome_iff_exists, hread]
  constructor
  · rintro ⟨a, cut, hcut, hsegment, -⟩
    exact ⟨cut, hcut, hsegment⟩
  · rintro ⟨cut, hcut, hsegment⟩
    exact ⟨_, cut, hcut, hsegment, Grammar.Cut.describes_iff.mpr rfl⟩

section

open scoped PatternEngine

/-- The token is made of signs of repetition, and the white space in front of the first bar is
a segment. -/
theorem Choice.parseWith?_grammar_of_blank_segment :
    let token : CommentToken := ⟨"+*".toList, by decide⟩
    let line := "é == 1 +* [CB]:\n\u2003|b| c||d".toList
    Marker.compiles token.text ∧
    (∃ cut : Grammar.Cut, cut.IsCutOf token.text line ∧ (∃ s ∈ cut.segments, s.trim ≠ []) ∧
      cut.Describes token ⟨token, some ⟨"é ==".toList, "1".toList, 6⟩, ["b".toList, "c".toList],
        "+* [CB]:\n\u2003|b| c".toList, 8⟩) ∧
    Pattern.leftmost? (Marker.matchesAt token.text) line =
      some ("é == 1 ".toList,
        ⟨"+* [CB]:\n\u2003|b| c".toList, "\u2003|b| c".toList, "||d".toList⟩) := by
  intro token line
  obtain ⟨-, hdescribes, -, -, hfind⟩ := Choice.parseWith?_grammar token rfl line
  exact ⟨rfl, (hdescribes _).mp rfl, hfind.symm⟩

-- The list of the leftmost marker is blank; the marker behind it is not tried.
example : (Choice.parseWith? "#".toList "x = 1 # [CB]: || # [CB]: a".toList).isNone := rfl

end

end InlineChoice
