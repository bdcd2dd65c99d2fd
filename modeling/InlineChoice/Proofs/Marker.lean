import InlineChoice.Marker
import InlineChoice.Proofs.Text

/-!
# The theory of markers

A marker is a token, white space, the tag and a candidate list, and the reader
takes the leftmost place where one stands. The first half of this module turns
the readers into equations on texts: `readAt?_eq_some_iff` says how a marker
stands at the head of a text, and `find?_eq_some_iff` says what it means to be
the leftmost one.

The second half is about tokens without white space, here called unbroken; if
they do not contain the tag either, they are called plain. A marker of such a
token that starts before a white-space character, which a marker follows, has
its whole tag before that character, or the token itself begins with the tag
(`tag_before_blank`). So the white space around a value cannot help to form a
marker, and a value can be exchanged under the eyes of the reader:

* `Leftmost.replace`: with a value that does not contain the tag, the leftmost
  marker of the changed line is the leftmost marker of the line.
-/

namespace InlineChoice

/-! ## Candidate lists -/

namespace CandidateList

/-- The list and what follows it are the text. -/
theorem take_append (t : Text) : (take t).1 ++ (take t).2 = t := by
  induction t with
  | nil => rfl
  | cons c rest ih =>
      rw [take]
      split
      · rfl
      · split
        · rfl
        · rw [List.cons_append, ih]

theorem isSegmentChar_iff {c : Char} :
    isSegmentChar c = true ↔ c ≠ '|' ∧ c ≠ '\n' := by
  simp [isSegmentChar]

theorem take_cons_of_segmentChar {c : Char} (hc : c ≠ '|' ∧ c ≠ '\n') (t : Text) :
    take (c :: t) = (c :: (take t).1, (take t).2) := by
  rw [take, if_neg hc.2, if_neg (by simp [hc.1])]

/-- A bar is taken if a segment follows it. -/
theorem take_bar_cons {c : Char} (hc : c ≠ '|' ∧ c ≠ '\n') (t : Text) :
    take ('|' :: c :: t) =
      ('|' :: (take (c :: t)).1, (take (c :: t)).2) := by
  rw [take, if_neg (by decide), if_neg]
  simp [isSegmentChar_iff.mpr hc]

theorem take_segment_append {s : Text} (hs : ∀ c ∈ s, c ≠ '|' ∧ c ≠ '\n') (t : Text) :
    take (s ++ t) =
      (s ++ (take t).1, (take t).2) := by
  induction s with
  | nil => rfl
  | cons c s ih =>
      have hrest := ih fun d hd => hs d (List.mem_cons_of_mem c hd)
      rw [List.cons_append, take_cons_of_segmentChar (hs c List.mem_cons_self), hrest]
      rfl

/-- A candidate is trimmed and not empty. -/
theorem trim_of_mem_candidates {list c : Text} (h : c ∈ candidates list) :
    c.trim = c ∧ c ≠ [] := by
  obtain ⟨hmem, hne⟩ := List.mem_filter.mp h
  obtain ⟨piece, -, rfl⟩ := List.mem_map.mp hmem
  exact ⟨Text.trim_trim piece, of_decide_eq_true hne⟩

/-- A candidate is made of characters of its list. -/
theorem mem_of_mem_candidates {list candidate : Text} {c : Char}
    (h : candidate ∈ candidates list) (hc : c ∈ candidate) : c ∈ list := by
  obtain ⟨hmem, -⟩ := List.mem_filter.mp h
  obtain ⟨piece, hpiece, rfl⟩ := List.mem_map.mp hmem
  exact Text.mem_of_mem_pieces hpiece (Text.mem_of_mem_trim hc)

end CandidateList

namespace Marker

open Text (AllBlank isBlank)

/-! ## The parts of a marker -/

theorem after?_eq_some_iff {start t rest : Text} :
    after? start t = some rest ↔ t = start ++ rest := by
  rw [after?]
  constructor
  · intro h
    split at h
    · next hpre =>
        obtain ⟨behind, rfl⟩ := List.isPrefixOf_iff_prefix.mp hpre
        simpa using h
    · cases h
  · rintro rfl
    have hpre : start.isPrefixOf (start ++ rest) = true :=
      List.isPrefixOf_iff_prefix.mpr (List.prefix_append start rest)
    rw [if_pos hpre, List.drop_left]

theorem after?_cons_cons (c d : Char) (start t : Text) :
    after? (c :: start) (d :: t) = if c = d then after? start t else none := by
  by_cases hc : c = d
  · simp [after?, hc]
  · simp [after?, hc]

theorem tag_not_blank : ∀ c ∈ tag, isBlank c = false := by
  have hall : tag.all (fun c => !isBlank c) = true := by decide
  intro c hc
  simpa using List.all_eq_true.mp hall c hc

theorem not_mem_tag_of_blank {c : Char} (h : isBlank c = true) : c ∉ tag := by
  intro hc
  rw [tag_not_blank c hc] at h
  cases h

/-- White space in front of the tag ends where the tag begins. -/
theorem head_tag_not_blank (rest : Text) :
    ∀ c, (tag ++ rest).head? = some c → isBlank c = false := by
  intro c hc
  obtain rfl : '[' = c := by simpa [tag] using hc
  decide

/-! ## Where the list begins -/

/-- The white space in front of a list and the list with what follows are the text. -/
theorem listStart?_append {t blanks body : Text} (h : listStart? t = some (blanks, body)) :
    blanks ++ body = t := by
  simp only [listStart?] at h
  split at h
  · cases h
    exact List.takeWhile_append_dropWhile
  · obtain ⟨last, hlast, hpair⟩ := Option.map_eq_some_iff.mp h
    cases hpair
    obtain ⟨front, hfront⟩ := List.getLast?_eq_some_iff.mp hlast
    obtain ⟨behind, hbehind⟩ : Text.dropEndWhile (· = '\n') (t.takeWhile isBlank) <+: t :=
      (List.rdropWhile_prefix _ _).trans (List.takeWhile_prefix _)
    generalize Text.dropEndWhile (· = '\n') (t.takeWhile isBlank) = kept at *
    subst hfront hbehind
    simp

/-- A list begins in a text unless its first character that is not white space
is missing or a bar, and the white space before it is line feeds only. -/
theorem listStart?_isSome (t : Text) :
    (listStart? t).isSome =
      ((t.dropWhile isBlank).head?.any (· ≠ '|') || (t.takeWhile isBlank).any (· ≠ '\n')) := by
  simp only [listStart?]
  split
  · next h => rw [h, Bool.true_or, Option.isSome_some]
  · next h =>
      have hkept : Text.dropEndWhile (· = '\n') (t.takeWhile isBlank) = [] ↔
          ∀ c ∈ t.takeWhile isBlank, decide (c = '\n') = true :=
        List.rdropWhile_eq_nil_iff
      rw [eq_false_of_ne_true h, Bool.false_or, Option.isSome_map,
        Bool.eq_iff_iff, List.getLast?_isSome, ne_eq, hkept]
      simp

/-- Whether a list begins is settled once a character that is not white space
has been seen. -/
theorem listStart?_isSome_append {front : Text} {c : Char} (hc : isBlank c = false)
    (s s' : Text) :
    (listStart? (front ++ c :: s)).isSome = (listStart? (front ++ c :: s')).isSome := by
  induction front with
  | nil => simp [listStart?_isSome, hc]
  | cons d front ih =>
      simp only [listStart?_isSome, List.cons_append] at ih ⊢
      by_cases hd : isBlank d = true
      · rw [List.dropWhile_cons_of_pos hd, List.dropWhile_cons_of_pos hd,
          List.takeWhile_cons_of_pos hd, List.takeWhile_cons_of_pos hd, List.any_cons,
          List.any_cons, Bool.or_left_comm, ih, Bool.or_left_comm]
      · rw [List.dropWhile_cons_of_neg hd, List.dropWhile_cons_of_neg hd,
          List.takeWhile_cons_of_neg hd, List.takeWhile_cons_of_neg hd]
        rfl

/-! ## A marker at the head of a text -/

/-- The marker with the given white space, candidate list and continuation. -/
def ofParts (token : CommentToken) (gap blanks body : Text) : Marker where
  span := token.text ++ gap ++ tag ++ blanks ++ (CandidateList.take body).1
  list := (CandidateList.take body).1
  tail := (CandidateList.take body).2

theorem ofParts_text (token : CommentToken) (gap blanks body : Text) :
    (ofParts token gap blanks body).span ++ (ofParts token gap blanks body).tail =
      token.text ++ gap ++ tag ++ (blanks ++ body) := by
  simp only [ofParts, List.append_assoc, CandidateList.take_append]

/-- How a marker stands at the head of a text. -/
theorem readAt?_eq_some_iff {token : CommentToken} {t : Text} {m : Marker} :
    readAt? token t = some m ↔
      ∃ gap blanks body, AllBlank gap ∧ t = token.text ++ gap ++ tag ++ (blanks ++ body) ∧
        listStart? (blanks ++ body) = some (blanks, body) ∧
        m = ofParts token gap blanks body := by
  simp only [readAt?, Option.bind_eq_bind, Option.bind_eq_some_iff, Option.pure_def,
    Option.some.injEq, after?_eq_some_iff]
  constructor
  · rintro ⟨afterToken, rfl, afterTag, htag, ⟨blanks, body⟩, hstart, rfl⟩
    obtain rfl := listStart?_append hstart
    refine ⟨afterToken.takeWhile isBlank, blanks, body, Text.allBlank_takeWhile _, ?_,
      hstart, rfl⟩
    rw [List.append_assoc, List.append_assoc, ← htag, List.takeWhile_append_dropWhile]
  · rintro ⟨gap, blanks, body, hgap, rfl, hstart, rfl⟩
    refine ⟨gap ++ (tag ++ (blanks ++ body)), by simp only [List.append_assoc],
      blanks ++ body, Text.dropWhile_run hgap (head_tag_not_blank _), (blanks, body), hstart, ?_⟩
    rw [Text.takeWhile_run hgap (head_tag_not_blank _)]
    rfl

/-- A marker and the rest of its line are the text it was read from. -/
theorem span_append_tail {token : CommentToken} {t : Text} {m : Marker}
    (h : readAt? token t = some m) : m.span ++ m.tail = t := by
  obtain ⟨gap, blanks, body, -, rfl, -, rfl⟩ := readAt?_eq_some_iff.mp h
  exact ofParts_text token gap blanks body

/-- A marker is not empty, and its list is its end. -/
theorem span_of_readAt? {token : CommentToken} {t : Text} {m : Marker}
    (h : readAt? token t = some m) : ∃ front, m.span = front ++ m.list ∧ m.span ≠ [] := by
  obtain ⟨gap, blanks, body, -, -, -, rfl⟩ := readAt?_eq_some_iff.mp h
  exact ⟨_, rfl, by simp [ofParts, token.text_ne_nil]⟩

/-- A marker stands at the head of a text where a token, white space and the tag
are followed by a place where a list begins. -/
theorem readAt?_isSome_iff {token : CommentToken} {t : Text} :
    (readAt? token t).isSome ↔
      ∃ gap rest, AllBlank gap ∧ t = token.text ++ gap ++ tag ++ rest ∧
        (listStart? rest).isSome := by
  constructor
  · intro h
    obtain ⟨m, hm⟩ := Option.isSome_iff_exists.mp h
    obtain ⟨gap, blanks, body, hgap, rfl, hstart, -⟩ := readAt?_eq_some_iff.mp hm
    exact ⟨gap, blanks ++ body, hgap, rfl, by rw [hstart]; rfl⟩
  · rintro ⟨gap, rest, hgap, rfl, hsome⟩
    obtain ⟨⟨blanks, body⟩, hstart⟩ := Option.isSome_iff_exists.mp hsome
    obtain rfl := listStart?_append hstart
    rw [readAt?_eq_some_iff.mpr ⟨gap, blanks, body, hgap, rfl, hstart, rfl⟩]
    rfl

/-! ## The leftmost marker -/

/-- The marker stands right behind a text, and no marker stands at any place in
that text. -/
structure Leftmost (token : CommentToken) (head : Text) (m : Marker) : Prop where
  stands : readAt? token (m.span ++ m.tail) = some m
  none_before : ∀ place, place <:+ head → place ≠ [] →
    readAt? token (place ++ (m.span ++ m.tail)) = none

theorem Leftmost.of_readAt? {token : CommentToken} {t : Text} {m : Marker}
    (h : readAt? token t = some m) : Leftmost token [] m := by
  refine ⟨?_, fun place hplace hne => absurd (List.suffix_nil.mp hplace) hne⟩
  rw [span_append_tail h, h]

theorem find?_of_readAt? {token : CommentToken} {t : Text} {m : Marker}
    (h : readAt? token t = some m) : find? token t = some ([], m) := by
  cases t with
  | nil => rw [find?, h, Option.map_some]
  | cons c rest => rw [find?, h]

theorem find?_cons_of_none {token : CommentToken} {c : Char} {rest : Text}
    (h : readAt? token (c :: rest) = none) :
    find? token (c :: rest) =
      (find? token rest).map fun (head, marker) => (c :: head, marker) := by
  rw [find?, h]

/-- The search finds the leftmost marker and cuts the line in front of it. -/
theorem leftmost_of_find? {token : CommentToken} {line head : Text} {m : Marker}
    (h : find? token line = some (head, m)) :
    line = head ++ (m.span ++ m.tail) ∧ Leftmost token head m := by
  induction line generalizing head with
  | nil =>
      rw [find?] at h
      obtain ⟨first, hread, hpair⟩ := Option.map_eq_some_iff.mp h
      cases hpair
      exact ⟨(span_append_tail hread).symm, Leftmost.of_readAt? hread⟩
  | cons c rest ih =>
      cases hread : readAt? token (c :: rest) with
      | some first =>
          rw [find?_of_readAt? hread] at h
          cases h
          exact ⟨(span_append_tail hread).symm, Leftmost.of_readAt? hread⟩
      | none =>
          rw [find?_cons_of_none hread] at h
          obtain ⟨⟨behind, m'⟩, hfind, hpair⟩ := Option.map_eq_some_iff.mp h
          cases hpair
          obtain ⟨hrest, hm, hnone⟩ := ih hfind
          refine ⟨by rw [hrest, List.cons_append], hm, fun place hplace hne => ?_⟩
          rcases List.suffix_cons_iff.mp hplace with rfl | hplace
          · rw [List.cons_append, ← hrest, hread]
          · exact hnone place hplace hne

theorem Leftmost.find?_eq {token : CommentToken} {head : Text} {m : Marker}
    (h : Leftmost token head m) :
    find? token (head ++ (m.span ++ m.tail)) = some (head, m) := by
  obtain ⟨hm, hnone⟩ := h
  induction head with
  | nil => exact find?_of_readAt? hm
  | cons c head ih =>
      have hfirst : readAt? token (c :: (head ++ (m.span ++ m.tail))) = none :=
        hnone (c :: head) List.suffix_rfl (List.cons_ne_nil c head)
      have hrest : find? token (head ++ (m.span ++ m.tail)) = some (head, m) :=
        ih fun place hplace => hnone place (hplace.trans (List.suffix_cons c head))
      rw [List.cons_append, find?_cons_of_none hfirst, hrest, Option.map_some]

/-- What the search finds is the leftmost marker, and only that. -/
theorem find?_eq_some_iff {token : CommentToken} {line head : Text} {m : Marker} :
    find? token line = some (head, m) ↔
      line = head ++ (m.span ++ m.tail) ∧ Leftmost token head m := by
  constructor
  · exact leftmost_of_find?
  · rintro ⟨rfl, h⟩
    exact h.find?_eq

/-! ## Plain tokens -/

/-- A token without white space. -/
structure UnbrokenToken (token : Text) : Prop where
  ne_nil : token ≠ []
  not_blank : ∀ c ∈ token, isBlank c = false

/-- A token without white space and without the tag. -/
structure PlainToken (token : Text) : Prop where
  ne_nil : token ≠ []
  not_blank : ∀ c ∈ token, isBlank c = false
  no_tag : ¬ tag <:+: token

theorem PlainToken.unbroken {token : Text} (h : PlainToken token) : UnbrokenToken token :=
  ⟨h.ne_nil, h.not_blank⟩

theorem plainToken_iff {token : Text} :
    PlainToken token ↔
      token ≠ [] ∧ token.all (fun c => !isBlank c) = true ∧ ¬ tag <:+: token := by
  constructor
  · rintro ⟨hne, hblank, htag⟩
    refine ⟨hne, List.all_eq_true.mpr fun c hc => ?_, htag⟩
    rw [hblank c hc, Bool.not_false]
  · rintro ⟨hne, hblank, htag⟩
    refine ⟨hne, fun c hc => ?_, htag⟩
    simpa using List.all_eq_true.mp hblank c hc

instance (token : Text) : Decidable (PlainToken token) :=
  decidable_of_iff _ plainToken_iff.symm

section Unbroken

variable {token : CommentToken} (unbroken : UnbrokenToken token.text)

include unbroken

/-- A marker does not start with white space. -/
theorem not_blank_of_readAt? {c : Char} {rest : Text}
    (h : (readAt? token (c :: rest)).isSome) : isBlank c = false := by
  obtain ⟨gap, after, -, htext, -⟩ := readAt?_isSome_iff.mp h
  obtain ⟨first, others, hfirst⟩ := List.exists_cons_of_ne_nil unbroken.ne_nil
  obtain rfl : c = first := by simpa [hfirst] using congrArg List.head? htext
  exact unbroken.not_blank c (by simp [hfirst])

/-- A marker stands where white space and the tag stand only if the token begins with
the tag: it is not mistaken for white space, nor for a smaller part of the tag. -/
theorem tag_prefix_of_readAt? {gap rest : Text} (hgap : AllBlank gap)
    (hsome : (readAt? token (gap ++ (tag ++ rest))).isSome) : tag <+: token.text := by
  obtain ⟨gap', after, hgap', htext, -⟩ := readAt?_isSome_iff.mp hsome
  obtain ⟨first, others, hfirst⟩ := List.exists_cons_of_ne_nil unbroken.ne_nil
  cases gap with
  | cons c gap =>
      have hblank := not_blank_of_readAt? unbroken hsome
      rw [hgap c (by simp)] at hblank
      cases hblank
  | nil =>
      rw [List.nil_append, List.append_assoc, List.append_assoc] at htext
      rcases List.append_eq_append_iff.mp htext with ⟨more, htoken, -⟩ | ⟨more, htag, hmore⟩
      · exact ⟨more, htoken.symm⟩
      · cases more with
        | nil => exact ⟨[], by simp [htag]⟩
        | cons d more =>
            -- The token is a proper front part of the tag, so what follows it
            -- starts inside the tag: neither with white space nor with the tag.
            have hinner : d ∈ tag.tail := by
              rw [htag, hfirst]
              simp
            exfalso
            cases gap' with
            | cons c gap' =>
                obtain rfl : c = d := by simpa using congrArg List.head? hmore
                have hc : isBlank c = true := hgap' c (by simp)
                rw [tag_not_blank c (List.mem_of_mem_tail hinner)] at hc
                cases hc
            | nil =>
                obtain rfl : '[' = d := by simpa [tag] using congrArg List.head? hmore
                revert hinner
                decide

/-- A marker that starts in front of a white-space character, which a marker follows,
has its tag in front of that character, or it takes its tag from the token of the other
marker. -/
theorem tag_before_blank {front t : Text} {c : Char} {m : Marker}
    (hm : readAt? token t = some m) (hc : isBlank c = true)
    (h : (readAt? token (front ++ c :: t)).isSome) :
    (∃ gap rest, AllBlank gap ∧ front = token.text ++ gap ++ tag ++ rest ∧
      (listStart? (rest ++ c :: t)).isSome) ∨
    (tag <+: token.text ∧ ∃ gap, AllBlank gap ∧ front = token.text ++ gap) := by
  obtain ⟨gap, after, hgap, htext, hstart⟩ := readAt?_isSome_iff.mp h
  rcases Text.append_eq_append_cons htext.symm (not_mem_tag_of_blank hc) with
    ⟨rest, hfront, rfl⟩ | ⟨rest, hleft, rfl⟩
  · exact Or.inl ⟨gap, rest, hgap, hfront, hstart⟩
  · have hctoken : c ∉ token.text := by
      intro hmem
      rw [unbroken.not_blank c hmem] at hc
      cases hc
    have hleft : [] ++ token.text ++ gap = front ++ c :: rest := hleft
    rcases Text.append_eq_append_cons hleft hctoken with ⟨mid, hfront, rfl⟩ | ⟨mid, hnil, -⟩
    · have hrest : AllBlank rest := fun d hd => hgap d (by simp [hd])
      have hsome : (readAt? token (rest ++ (tag ++ after))).isSome := by
        rw [List.append_assoc] at hm
        rw [hm, Option.isSome_some]
      exact Or.inr ⟨tag_prefix_of_readAt? unbroken hrest hsome, mid,
        fun d hd => hgap d (by simp [hd]), hfront⟩
    · simp at hnil

/-- Behind a kept text that ends with a character that is neither white space nor
part of the tag, a text without the tag can be exchanged: the leftmost marker
stays the leftmost one. A token that begins with the tag must not end the new text. -/
theorem Leftmost.replace {kept old new : Text} {e c : Char} {m : Marker}
    (h : Leftmost token (kept ++ e :: old) m) (he : isBlank e = false) (hetag : e ∉ tag)
    (hc : isBlank c = true) (hnew : ¬ tag <:+: new)
    (hends : tag <+: token.text → ∀ gap, AllBlank gap →
      ¬ token.text ++ gap <:+ kept ++ e :: new) :
    Leftmost token (kept ++ e :: (new ++ [c])) m := by
  refine ⟨h.stands, fun place hplace hne => ?_⟩
  obtain ⟨before, hbefore⟩ := hplace
  obtain ⟨front, last, rfl⟩ : ∃ front last, place = front ++ [last] :=
    (List.eq_nil_or_concat' place).resolve_left hne
  have hsides : before ++ front ++ [last] = kept ++ e :: new ++ [c] := by simpa using hbefore
  obtain ⟨hsplit, hlast⟩ := List.append_inj' hsides rfl
  obtain rfl : c = last := by simpa using hlast.symm
  rw [List.append_assoc, List.singleton_append]
  by_contra hsome
  rcases tag_before_blank unbroken h.stands hc (Option.isSome_iff_ne_none.mpr hsome) with
    ⟨gap, rest, hgap, rfl, hstart⟩ | ⟨hbegins, gap, hgap, rfl⟩
  · have hword : (before ++ (token.text ++ gap)) ++ tag ++ rest = kept ++ e :: new := by
      rw [← hsplit]
      simp only [List.append_assoc]
    rcases Text.append_eq_append_cons hword hetag with ⟨kept', rfl, rfl⟩ | ⟨new', -, rfl⟩
    · -- The whole tag is in the kept text, so the same marker stood in the old line.
      have hold : (readAt? token (token.text ++ gap ++ tag ++ kept' ++ e :: old ++
          (m.span ++ m.tail))).isSome := by
        refine readAt?_isSome_iff.mpr ⟨gap, kept' ++ e :: (old ++ (m.span ++ m.tail)), hgap,
          by simp, ?_⟩
        rw [listStart?_isSome_append he _ (new ++ c :: (m.span ++ m.tail))]
        simpa using hstart
      have hnone := h.none_before (token.text ++ gap ++ tag ++ kept' ++ e :: old)
        ⟨before, by simp⟩ (by simp)
      rw [hnone] at hold
      cases hold
    · exact hnew (List.infix_append new' tag rest)
  · exact hends hbegins gap hgap ⟨before, hsplit⟩

end Unbroken

end Marker

end InlineChoice
