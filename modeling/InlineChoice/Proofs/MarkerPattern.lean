import InlineChoice.Pattern.Ways
import InlineChoice.Proofs.Marker

/-!
# The pattern of a marker

A marker is read from left to right (`Marker.readAt?`), and it is also a pattern
(`Marker.pattern`), which may match in several ways: white space behind the tag may be left
to the list, and a list may end sooner than it has to. A search takes the first way in the
order of preference, and the reader is that search: it reads the first match
(`Marker.readAt?_eq_head?_matchesAt`), and so it finds the leftmost one
(`Marker.find?_eq_leftmost?`).

The reader never tries a second way, because it knows of every repetition where the first
useful one ends. White space in front of the tag is taken as a whole
(`Pattern.findSome?_runs`), since a tag does not begin with white space. A list is as long as
it can be (`CandidateList.head?_ways_pattern`), since nothing follows it. White space behind
the tag is where a search turns back: it gives up characters until one begins a segment
(`Marker.findSome?_runs_isBlank`).
-/

namespace InlineChoice

namespace Pattern

/-! ## First ways -/

theorem head?_flatMap_of_head? {α β : Type} {l : List α} {f : α → List β} {a : α} {b : β}
    (ha : l.head? = some a) (hb : (f a).head? = some b) : (l.flatMap f).head? = some b := by
  obtain ⟨others, rfl⟩ := List.head?_eq_some_iff.mp ha
  rw [List.flatMap_cons, List.head?_append, hb, Option.some_or]

theorem findSome?_flatMap {α β γ : Type} (l : List α) (f : α → List β) (next : β → Option γ) :
    (l.flatMap f).findSome? next = l.findSome? fun a => (f a).findSome? next := by
  induction l with
  | nil => rfl
  | cons a l ih =>
      rw [List.flatMap_cons, List.findSome?_append, ih, List.findSome?_cons]
      cases (f a).findSome? next <;> rfl

/-- A repetition can always stop. -/
theorem exists_head?_rounds (body : Text → List Way) (n : Nat) (t : Text) :
    ∃ way, (rounds body n t).head? = some way := by
  refine Option.isSome_iff_exists.mp (List.isSome_head?.mpr ?_)
  cases n <;> simp [rounds]

/-- A repetition goes on with the first copy, if there is one. -/
theorem head?_rounds_of_head? {body : Text → List Way} {n : Nat} {t : Text} {way : Way}
    (h : (body t).head? = some way) (hne : way.taken ≠ []) :
    (rounds body (n + 1) t).head? = (rounds body n way.rest).head?.map way.extend := by
  obtain ⟨others, hbody⟩ := List.head?_eq_some_iff.mp h
  obtain ⟨next, hnext⟩ := exists_head?_rounds body n way.rest
  have hfirst : ((body t).filter (·.taken ≠ [])).head? = some way := by simp [hbody, hne]
  have hcopies : (((body t).filter (·.taken ≠ [])).flatMap fun way =>
      (rounds body n way.rest).map way.extend).head? = some (way.extend next) :=
    head?_flatMap_of_head? hfirst (by rw [List.head?_map, hnext]; rfl)
  rw [rounds, List.head?_append, hcopies, hnext]
  rfl

theorem rounds_of_nil {body : Text → List Way} {n : Nat} {t : Text} (h : body t = []) :
    rounds body n t = [⟨[], t⟩] := by
  cases n <;> simp [rounds, h]

/-! ## Ways in a row -/

@[simp] theorem Way.extend_nil (t : Text) : Way.extend ⟨[], t⟩ = id := rfl

theorem Way.extend_extend (a b c : Way) : (a.extend b).extend c = a.extend (b.extend c) := by
  simp [extend]

/-- Patterns one after another. -/
def inRow {α : Type} : List (Pattern α) → Pattern α
  | [] => empty
  | first :: others => others.foldl sequence first

/-- The ways to match some patterns one after another, from the left. -/
def waysInRow : List (Pattern (Char → Bool)) → Text → List Way
  | [], t => [⟨[], t⟩]
  | p :: others, t => (ways p t).flatMap fun way => (waysInRow others way.rest).map way.extend

theorem ways_foldl_sequence (p : Pattern (Char → Bool)) (others : List (Pattern (Char → Bool)))
    (t : Text) :
    ways (others.foldl sequence p) t =
      (ways p t).flatMap fun way => (waysInRow others way.rest).map way.extend := by
  induction others generalizing p with
  | nil => simp [waysInRow, Way.extend]
  | cons q others ih =>
      rw [List.foldl_cons, ih, ways, List.flatMap_assoc]
      refine List.flatMap_congr fun way _ => ?_
      simp only [waysInRow, List.flatMap_map, List.map_flatMap, List.map_map]
      refine List.flatMap_congr fun next _ => ?_
      refine List.map_congr_left fun last _ => ?_
      exact Way.extend_extend way next last

theorem ways_inRow (items : List (Pattern (Char → Bool))) (t : Text) :
    ways (inRow items) t = waysInRow items t := by
  cases items with
  | nil => rfl
  | cons p others => exact ways_foldl_sequence p others t

theorem waysInRow_append (items others : List (Pattern (Char → Bool))) (t : Text) :
    waysInRow (items ++ others) t =
      (waysInRow items t).flatMap fun way => (waysInRow others way.rest).map way.extend := by
  induction items generalizing t with
  | nil => simp [waysInRow]
  | cons p items ih =>
      simp only [List.cons_append, waysInRow, ih, List.flatMap_assoc, List.flatMap_map,
        List.map_flatMap, List.map_map]
      refine List.flatMap_congr fun way _ => List.flatMap_congr fun next _ => ?_
      exact List.map_congr_left fun last _ => (Way.extend_extend way next last).symm

theorem ways_star (p : Pattern (Char → Bool)) (t : Text) :
    ways (repetition p 0 none) t = rounds (ways p) t.length t := by
  simp [ways, copies]

theorem ways_plus (p : Pattern (Char → Bool)) (t : Text) :
    ways (repetition p 1 none) t =
      (ways p t).flatMap fun way => (rounds (ways p) t.length way.rest).map way.extend := by
  simp [ways, copies, Way.extend]

/-! ## Texts and runs -/

/-- The characters of a text, one after another. -/
def literal (t : Text) : List (Pattern (Char → Bool)) :=
  t.map fun c => atom (· = c)

/-- A text matches itself, in one way. -/
theorem waysInRow_literal (s t : Text) :
    waysInRow (literal s) t = ((Marker.after? s t).map (Way.mk s)).toList := by
  induction s generalizing t with
  | nil => simp [literal, waysInRow, Marker.after?]
  | cons c s ih =>
      have hstep : waysInRow (literal (c :: s)) t =
          (ways (atom (· = c)) t).flatMap fun way =>
            (waysInRow (literal s) way.rest).map way.extend := rfl
      rw [hstep]
      cases t with
      | nil => rfl
      | cons d t =>
          by_cases hd : d = c
          · subst hd
            rw [Marker.after?_cons_cons, if_pos rfl]
            cases hafter : Marker.after? s t <;> simp [ways, ih, hafter, Way.extend]
          · rw [Marker.after?_cons_cons, if_neg (Ne.symm hd)]
            simp [ways, hd]

/-- The ways to match a run of characters with a property, longer runs first. -/
def runs (members : Char → Bool) : Text → List Way
  | [] => [⟨[], []⟩]
  | c :: rest =>
    if members c then (runs members rest).map (Way.extend ⟨[c], rest⟩) ++ [⟨[], c :: rest⟩]
    else [⟨[], c :: rest⟩]

theorem rounds_atom (members : Char → Bool) {n : Nat} {t : Text} (h : t.length ≤ n) :
    rounds (ways (atom members)) n t = runs members t := by
  induction t generalizing n with
  | nil => cases n <;> rfl
  | cons c rest ih =>
      obtain ⟨m, rfl⟩ : ∃ m, n = m + 1 := ⟨n - 1, by simp at h; omega⟩
      have hrest : rest.length ≤ m := by simpa using h
      rw [rounds, runs, ways]
      by_cases hc : members c
      · simp [hc, ih hrest]
      · simp [hc]

/-- The longest run is the first one. -/
theorem head?_runs (members : Char → Bool) (t : Text) :
    (runs members t).head? = some ⟨t.takeWhile members, t.dropWhile members⟩ := by
  induction t with
  | nil => rfl
  | cons c rest ih =>
      by_cases hc : members c
      · simp [runs, hc, ih, Way.extend]
      · simp [runs, hc]

/-- If what follows a run cannot begin with a character that the run could take, only the
longest run is of use. -/
theorem findSome?_runs {Match : Type} {members : Char → Bool} {next : Way → Option Match}
    (h : ∀ taken c rest, members c → next ⟨taken, c :: rest⟩ = none) (t : Text) :
    (runs members t).findSome? next = next ⟨t.takeWhile members, t.dropWhile members⟩ := by
  induction t generalizing next with
  | nil => simp [runs]
  | cons c rest ih =>
      by_cases hc : members c
      · have hrest : (runs members rest).findSome? (next ∘ Way.extend ⟨[c], rest⟩) = _ :=
          ih fun taken d rest' hd => h (c :: taken) d rest' hd
        rw [runs, if_pos hc, List.findSome?_append, List.findSome?_map, hrest]
        simp [h [] c rest hc, hc, Way.extend]
      · simp [runs, hc]

end Pattern

namespace CandidateList

open Pattern

/-! ## The pattern of a list -/

/-- A segment. -/
def segmentPattern : Pattern (Char → Bool) :=
  .repetition (.atom isSegmentChar) 1 none

/-- A segment behind a bar. -/
def barPattern : Pattern (Char → Bool) :=
  .sequence (.atom (· = '|')) segmentPattern

/-- A list of segments with bars between them. -/
def pattern : Pattern (Char → Bool) :=
  .sequence segmentPattern (.repetition barPattern 0 none)

theorem ways_segmentPattern_cons (c : Char) (rest : Text) :
    segmentPattern.ways (c :: rest) =
      if isSegmentChar c then (runs isSegmentChar rest).map (Way.extend ⟨[c], rest⟩) else [] := by
  rw [segmentPattern, ways_plus]
  have hatom : ways (.atom isSegmentChar) (c :: rest) =
      if isSegmentChar c then [⟨[c], rest⟩] else [] := rfl
  rw [hatom]
  split
  · rw [List.flatMap_singleton, rounds_atom isSegmentChar (by simp)]
  · rfl

/-- The first way to match a segment takes all of its characters. -/
theorem head?_ways_segmentPattern (t : Text) :
    (segmentPattern.ways t).head? =
      if t.head?.any isSegmentChar then
        some ⟨t.takeWhile isSegmentChar, t.dropWhile isSegmentChar⟩
      else none := by
  cases t with
  | nil => rfl
  | cons c rest =>
      rw [ways_segmentPattern_cons]
      by_cases hc : isSegmentChar c
      · simp [hc, head?_runs, Way.extend]
      · simp [hc]

theorem ways_barPattern (t : Text) :
    barPattern.ways t =
      (ways (.atom (· = '|')) t).flatMap fun way => (segmentPattern.ways way.rest).map way.extend :=
  rfl

/-- The reader takes a run of segment characters as a whole. -/
theorem take_eq_takeWhile_append (t : Text) :
    take t = (t.takeWhile isSegmentChar ++ (take (t.dropWhile isSegmentChar)).1,
      (take (t.dropWhile isSegmentChar)).2) := by
  have hrun : ∀ c ∈ t.takeWhile isSegmentChar, c ≠ '|' ∧ c ≠ '\n' := fun c hc =>
    isSegmentChar_iff.mp (List.mem_takeWhile_imp hc)
  have htake := take_segment_append hrun (t.dropWhile isSegmentChar)
  rwa [List.takeWhile_append_dropWhile] at htake

/-- Behind a run of segment characters stands none. -/
theorem head?_dropWhile_isSegmentChar (t : Text) :
    (t.dropWhile isSegmentChar).head?.all (!isSegmentChar ·) := by
  have hnot := List.head?_dropWhile_not isSegmentChar t
  cases hhead : (t.dropWhile isSegmentChar).head? with
  | none => rfl
  | some c => simpa [hhead] using hnot

/-- Segments behind bars are taken as the reader takes them. -/
theorem head?_rounds_barPattern {n : Nat} {t : Text} (hn : t.length ≤ n)
    (ht : t.head?.all (!isSegmentChar ·)) :
    (rounds barPattern.ways n t).head? = some ⟨(take t).1, (take t).2⟩ := by
  induction n generalizing t with
  | zero =>
      obtain rfl : t = [] := List.length_eq_zero_iff.mp (Nat.le_zero.mp hn)
      rfl
  | succ n ih =>
      cases t with
      | nil => rfl
      | cons c rest =>
      by_cases hbar : c = '|'
      · subst hbar
        by_cases hrest : rest.head?.any isSegmentChar
        · -- The segment behind the bar is one copy, and the rest begins with no segment.
          have hfirst : (barPattern.ways ('|' :: rest)).head? =
              some ⟨'|' :: rest.takeWhile isSegmentChar, rest.dropWhile isSegmentChar⟩ := by
            refine head?_flatMap_of_head? (a := ⟨['|'], rest⟩) rfl ?_
            rw [List.head?_map, head?_ways_segmentPattern, if_pos hrest]
            rfl
          have hlength : (rest.dropWhile isSegmentChar).length ≤ n := by
            have hle := List.length_dropWhile_le isSegmentChar rest
            simp only [List.length_cons] at hn
            omega
          obtain ⟨d, others, rfl⟩ : ∃ d others, rest = d :: others := by
            cases rest with
            | nil => cases hrest
            | cons d others => exact ⟨d, others, rfl⟩
          rw [head?_rounds_of_head? hfirst (List.cons_ne_nil _ _),
            ih hlength (head?_dropWhile_isSegmentChar _),
            take_bar_cons (isSegmentChar_iff.mp hrest), take_eq_takeWhile_append (d :: others)]
          rfl
        · have hstop : barPattern.ways ('|' :: rest) = [] := by
            have hnone := head?_ways_segmentPattern rest
            rw [if_neg hrest, List.head?_eq_none_iff] at hnone
            simp [ways_barPattern, ways, hnone]
          rw [rounds_of_nil hstop]
          simp [take, hrest]
      · obtain rfl : c = '\n' := by
          by_contra hfeed
          simp [isSegmentChar_iff.mpr ⟨hbar, hfeed⟩] at ht
        have hstop : barPattern.ways ('\n' :: rest) = [] := by simp [ways_barPattern, ways]
        rw [rounds_of_nil hstop]
        simp [take]

/-- **The first way to match a list is the longest list.** -/
theorem head?_ways_pattern (t : Text) :
    (pattern.ways t).head? =
      if t.head?.any isSegmentChar then some ⟨(take t).1, (take t).2⟩ else none := by
  have hsegment := head?_ways_segmentPattern t
  split
  · next hfirst =>
      rw [if_pos hfirst] at hsegment
      refine head?_flatMap_of_head? hsegment ?_
      rw [List.head?_map, ways_star, head?_rounds_barPattern (Nat.le_refl _)
        (head?_dropWhile_isSegmentChar t), take_eq_takeWhile_append t]
      rfl
  · next hfirst =>
      rw [if_neg hfirst, List.head?_eq_none_iff] at hsegment
      simp [pattern, ways, hsegment]

end CandidateList

namespace Marker

open Pattern
open Text (isBlank)

/-! ## The pattern of a marker -/

/-- White space. -/
def blanksPattern : Pattern (Char → Bool) :=
  .repetition (.atom isBlank) 0 none

/-- What stands in front of the list: the token and the tag, with white space behind
each. -/
def frontItems (token : Text) : List (Pattern (Char → Bool)) :=
  literal token ++ [blanksPattern] ++ literal tag ++ [blanksPattern]

/-- A marker of a token. -/
def pattern (token : Text) : Pattern (Char → Bool) :=
  inRow (frontItems token ++ [CandidateList.pattern])

/-- The markers that begin with a given front, with the list as the pattern of the list
matches it. -/
def matchesBehind (front : Way) : List Marker :=
  (CandidateList.pattern.ways front.rest).map fun list =>
    { span := front.taken ++ list.taken, list := list.taken, tail := list.rest }

/-- The markers that the pattern matches at the head of a text, the preferred one first. -/
def matchesAt (token t : Text) : List Marker :=
  (waysInRow (frontItems token) t).flatMap matchesBehind

theorem ways_pattern (token t : Text) :
    (pattern token).ways t = (matchesAt token t).map fun m => ⟨m.span, m.tail⟩ := by
  rw [pattern, ways_inRow, waysInRow_append, matchesAt, List.map_flatMap]
  refine List.flatMap_congr fun front _ => ?_
  simp [waysInRow, matchesBehind, Function.comp_def, Way.extend]

/-! ## Where the list begins -/

theorem listStart?_cons_of_not_blank {c : Char} (hc : isBlank c = false) (rest : Text) :
    listStart? (c :: rest) = if c ≠ '|' then some ([], c :: rest) else none := by
  simp [listStart?, hc, Text.dropEndWhile]

/-- White space in front is given to the list only if the list cannot begin behind it. -/
theorem listStart?_cons_of_blank {c : Char} (hc : isBlank c = true) (rest : Text) :
    listStart? (c :: rest) =
      ((listStart? rest).map fun start => (c :: start.1, start.2)).or
        (if c ≠ '\n' then some ([], c :: rest) else none) := by
  simp only [listStart?, List.takeWhile_cons_of_pos hc, List.dropWhile_cons_of_pos hc]
  split
  · rfl
  · rw [Text.dropEndWhile_cons]
    generalize Text.dropEndWhile (· = '\n') (rest.takeWhile isBlank) = kept
    cases kept with
    | nil => by_cases hfeed : c = '\n' <;> simp [hfeed]
    | cons d kept => simp [List.getLast?_cons]

/-- A list begins with a character of a segment. -/
theorem head?_of_listStart? {t blanks body : Text} (h : listStart? t = some (blanks, body)) :
    body.head?.any CandidateList.isSegmentChar := by
  induction t generalizing blanks with
  | nil => cases h
  | cons c rest ih =>
      by_cases hc : isBlank c
      · have hbar : c ≠ '|' := by
          rintro rfl
          cases hc
        rw [listStart?_cons_of_blank hc] at h
        cases hrest : listStart? rest with
        | none =>
            rw [hrest, Option.map_none, Option.none_or] at h
            split at h
            · next hfeed =>
                cases h
                exact CandidateList.isSegmentChar_iff.mpr ⟨hbar, hfeed⟩
            · cases h
        | some start =>
            rw [hrest, Option.map_some, Option.some_or] at h
            cases h
            exact ih hrest
      · have hfeed : c ≠ '\n' := by
          rintro rfl
          exact hc rfl
        rw [listStart?_cons_of_not_blank (eq_false_of_ne_true hc)] at h
        split at h
        · next hbar =>
            cases h
            exact CandidateList.isSegmentChar_iff.mpr ⟨hbar, hfeed⟩
        · cases h

/-- **Where the list begins.** Of the ways to match the white space behind a tag, the first
one that leaves a segment leaves the list of the reader. -/
theorem findSome?_runs_isBlank {Match : Type} {next : Way → Option Match}
    (h : ∀ way, (next way).isSome ↔ way.rest.head?.any CandidateList.isSegmentChar) (t : Text) :
    (runs isBlank t).findSome? next =
      (listStart? t).bind fun start => next ⟨start.1, start.2⟩ := by
  have hstop : ∀ taken rest c, ¬ CandidateList.isSegmentChar c →
      next ⟨taken, c :: rest⟩ = none := by
    intro taken rest c hc
    rw [← Option.not_isSome_iff_eq_none, h]
    simpa using hc
  induction t generalizing next with
  | nil =>
      have hnil : next ⟨[], []⟩ = none := by
        rw [← Option.not_isSome_iff_eq_none, h]
        simp
      simp [runs, hnil, listStart?, Text.dropEndWhile]
  | cons c rest ih =>
      by_cases hc : isBlank c
      · have hrest : (runs isBlank rest).findSome? (next ∘ Way.extend ⟨[c], rest⟩) = _ :=
          ih (fun way => h _) fun taken => hstop (c :: taken)
        rw [runs, if_pos hc, List.findSome?_append, List.findSome?_map, hrest,
          listStart?_cons_of_blank hc]
        cases hstart : listStart? rest with
        | none =>
            by_cases hfeed : c = '\n'
            · subst hfeed
              simp [hstop [] rest '\n' (by decide)]
            · simp [hfeed]
        | some start =>
            -- White space is taken from the list only if nothing else is left to it.
            have hsome : (next ⟨c :: start.1, start.2⟩).isSome :=
              (h _).mpr (head?_of_listStart? hstart)
            obtain ⟨first, hfirst⟩ := Option.isSome_iff_exists.mp hsome
            simp [Way.extend, hfirst]
      · rw [runs, if_neg hc, listStart?_cons_of_not_blank (eq_false_of_ne_true hc)]
        by_cases hbar : c = '|'
        · subst hbar
          simp [hstop [] rest '|' (by decide)]
        · simp [hbar]

/-! ## The reader -/

theorem findSome?_waysInRow_append {Match : Type} (items others : List (Pattern (Char → Bool)))
    (t : Text) (next : Way → Option Match) :
    (waysInRow (items ++ others) t).findSome? next =
      (waysInRow items t).findSome? fun way =>
        (waysInRow others way.rest).findSome? (next ∘ way.extend) := by
  rw [waysInRow_append, findSome?_flatMap]
  simp only [List.findSome?_map]

theorem findSome?_literal {Match : Type} (s t : Text) (next : Way → Option Match) :
    (waysInRow (literal s) t).findSome? next = (after? s t).bind fun rest => next ⟨s, rest⟩ := by
  rw [waysInRow_literal]
  cases after? s t <;> simp

theorem findSome?_blanks {Match : Type} (t : Text) (next : Way → Option Match) :
    (waysInRow [blanksPattern] t).findSome? next = (runs isBlank t).findSome? next := by
  have hruns : waysInRow [blanksPattern] t = runs isBlank t := by
    rw [← ways_inRow]
    exact (ways_star _ t).trans (rounds_atom isBlank (Nat.le_refl _))
  rw [hruns]

theorem head?_matchesBehind (front : Way) :
    (matchesBehind front).head? =
      if front.rest.head?.any CandidateList.isSegmentChar then
        some ⟨front.taken ++ (CandidateList.take front.rest).1,
          (CandidateList.take front.rest).1, (CandidateList.take front.rest).2⟩
      else none := by
  rw [matchesBehind, List.head?_map, CandidateList.head?_ways_pattern]
  split
  · rfl
  · rfl

/-- **The reader takes the first match.** -/
theorem readAt?_eq_head?_matchesAt (token : CommentToken) (t : Text) :
    readAt? token t = (matchesAt token.text t).head? := by
  rw [matchesAt, List.head?_flatMap, frontItems, findSome?_waysInRow_append,
    findSome?_waysInRow_append, findSome?_waysInRow_append, findSome?_literal]
  simp only [findSome?_blanks, findSome?_literal, readAt?, Option.bind_eq_bind]
  cases after? token.text t with
  | none => rfl
  | some afterToken =>
  simp only [Option.bind_some]
  -- The tag does not begin with white space, so the gap takes all of it.
  rw [findSome?_runs]
  swap
  · intro taken c rest hc
    have htag : after? tag (c :: rest) = none := by
      rw [tag, after?_cons_cons, if_neg]
      rintro rfl
      cases hc
    simp [htag, Way.extend]
  simp only [Function.comp_def, Way.extend]
  cases after? tag (afterToken.dropWhile isBlank) with
  | none => rfl
  | some afterTag =>
  simp only [Option.bind_some]
  rw [findSome?_runs_isBlank]
  swap
  · intro way
    rw [head?_matchesBehind]
    split <;> simp_all
  cases hstart : listStart? afterTag with
  | none => rfl
  | some start =>
    simp only [Option.bind_some, head?_matchesBehind, if_pos (head?_of_listStart? hstart)]
    rfl

theorem find?_eq_leftmost? (token : CommentToken) (line : Text) :
    find? token line = leftmost? (matchesAt token.text) line := by
  induction line with
  | nil => rw [find?, leftmost?, readAt?_eq_head?_matchesAt]
  | cons c rest ih =>
      rw [find?, leftmost?, readAt?_eq_head?_matchesAt, ih]
      cases (matchesAt token.text (c :: rest)).head? with
      | none => rfl
      | some first => rfl

end Marker

end InlineChoice
