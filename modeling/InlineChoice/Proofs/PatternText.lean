import InlineChoice.Pattern.Reader
import InlineChoice.Proofs.MarkerPattern

/-!
# Reading the pattern of a marker

The pattern of a marker is written down as a text (`Marker.patternText`), and the engine is
given the text. `Pattern.read?_patternText` reads the text back: it spells the pattern of the
marker, for every token. A token may hold signs that mean something in a pattern; they are
escaped, and each of them is read as the character that it is
(`Token.scanFrom?_escape_append`).

The text is read in two steps, first into tokens and then into groups. The tokens of the
token and of the tag are literals, however many there are, so both steps are inductions on a
text in front of what follows. What follows is the same for every token.
-/

namespace InlineChoice

namespace Pattern

namespace Token

/-! ## Scanning -/

/-- A token at the head of a text in a pattern that is not verbose. -/
theorem scanFrom?_of_read? {outer : List Bool} {c : Char} {t rest : Text} {token : Token}
    (hread : read? false (c :: t) = some (token, rest)) (hlength : rest.length ≤ t.length) :
    scanFrom? false outer (c :: t) =
      (scanFrom? (token.scopes false outer).1 (token.scopes false outer).2 rest).map
        (token :: ·) := by
  rw [scanFrom?]
  simp only [skip, Bool.false_eq_true, ↓reduceIte, hread]
  rw [if_pos (by simpa using Nat.lt_succ_of_le hlength)]

theorem read?_of_notMem {c : Char} (hc : c ∉ metaCharacters) (rest : Text) :
    read? false (c :: rest) = some (literal { char := c }, rest) := by
  unfold read?
  split <;> simp_all [metaCharacters]

theorem read?_of_mem {c : Char} (hc : c ∈ metaCharacters) (rest : Text) :
    read? false ('\\' :: c :: rest) = some (literal { char := c }, rest) := by
  simp only [metaCharacters, List.mem_cons, List.not_mem_nil, or_false] at hc
  rcases hc with rfl | rfl | rfl | rfl | rfl | rfl | rfl | rfl | rfl | rfl | rfl | rfl | rfl |
    rfl | rfl | rfl | rfl | rfl <;> rfl

/-- The tokens of a text that matches itself. -/
def literals (t : Text) : List Token :=
  t.map fun c => literal { char := c }

theorem scanFrom?_escape_append (outer : List Bool) (t rest : Text) :
    scanFrom? false outer (escape t ++ rest) =
      (scanFrom? false outer rest).map (literals t ++ ·) := by
  induction t with
  | nil => simp [escape, literals]
  | cons c t ih =>
      have htokens : ∀ {text : Text},
          read? false text = some (literal { char := c }, escape t ++ rest) →
          (∃ d more, text = d :: more ∧ (escape t ++ rest).length ≤ more.length) →
          scanFrom? false outer text =
            (scanFrom? false outer rest).map (literals (c :: t) ++ ·) := by
        rintro text hread ⟨d, more, rfl, hlength⟩
        rw [scanFrom?_of_read? hread hlength]
        simp only [scopes, ih, Option.map_map, literals]
        rfl
      by_cases hc : c ∈ metaCharacters
      · have htext : escape (c :: t) ++ rest = '\\' :: c :: (escape t ++ rest) := by
          simp [escape, hc]
        rw [htext]
        exact htokens (read?_of_mem hc _) ⟨_, _, rfl, by simp⟩
      · have htext : escape (c :: t) ++ rest = c :: (escape t ++ rest) := by
          simp [escape, hc]
        rw [htext]
        exact htokens (read?_of_notMem hc _) ⟨_, _, rfl, Nat.le_refl _⟩

/-- A mark behind an item is a repetition, unless a question mark makes it reluctant. -/
theorem skipReluctant_of_head? {rest : Text} (h : rest.head? ≠ some '?') :
    skipReluctant rest = rest := by
  cases rest with
  | nil => rfl
  | cons c rest =>
      have hc : c ≠ '?' := by simpa using h
      simp [skipReluctant, hc]

/-- The tokens of the white space in a marker. -/
def blanks : List Token :=
  [set (.shorthand .space false), repetition 0 none]

theorem scanFrom?_blanksText_append {rest : Text} (h : rest.head? ≠ some '?')
    (outer : List Bool) :
    scanFrom? false outer (Marker.blanksText ++ rest) =
      (scanFrom? false outer rest).map (blanks ++ ·) := by
  have hspace : read? false ('\\' :: 's' :: '*' :: rest) =
      some (set (.shorthand .space false), '*' :: rest) := rfl
  have hstar : read? false ('*' :: rest) = some (repetition 0 none, rest) := by
    rw [read?, skipReluctant_of_head? h]
  change scanFrom? false outer ('\\' :: 's' :: '*' :: rest) = _
  rw [scanFrom?_of_read? hspace (Nat.le_succ _)]
  simp only [scopes]
  rw [scanFrom?_of_read? hstar (Nat.le_refl _), Option.map_map]
  rfl

/-- The set of the characters of a segment. -/
def segmentSet : CharSet :=
  .bracket true (.union (.literal { char := '|' }) (.literal { char := '\n' }))

theorem read?_segmentSet (rest : Text) :
    CharSet.read? false ('^' :: '|' :: '\\' :: 'n' :: ']' :: rest) = some (segmentSet, rest) := by
  -- The open set behind the circumflex, behind the bar and behind the line feed.
  let opened : OpenSet := { isNegated := true }
  let barred := opened.add (.literal { char := '|' })
  let fed := barred.add (.literal { char := '\n' })
  have hbar : setStep? false opened [] ('|' :: '\\' :: 'n' :: ']' :: rest) =
      some (.opened barred [] ('\\' :: 'n' :: ']' :: rest)) := rfl
  have hfeed : setStep? false barred [] ('\\' :: 'n' :: ']' :: rest) =
      some (.opened fed [] (']' :: rest)) := rfl
  have hclose : setStep? false fed [] (']' :: rest) = some (.closed segmentSet rest) := rfl
  change readOpenSet? false opened [] ('|' :: '\\' :: 'n' :: ']' :: rest) = _
  rw [readOpenSet?, hbar]
  simp only [List.length_cons]
  rw [if_pos (by omega), readOpenSet?, hfeed]
  simp only [List.length_cons]
  rw [if_pos (by omega), readOpenSet?, hclose]

/-- The tokens of a segment. -/
def segment : List Token :=
  [set segmentSet, repetition 1 none]

theorem scanFrom?_segmentText_append {rest : Text} (h : rest.head? ≠ some '?')
    (outer : List Bool) :
    scanFrom? false outer (Marker.segmentText ++ rest) =
      (scanFrom? false outer rest).map (segment ++ ·) := by
  have hset : read? false ('[' :: '^' :: '|' :: '\\' :: 'n' :: ']' :: '+' :: rest) =
      some (set segmentSet, '+' :: rest) := by
    rw [read?, read?_segmentSet, Option.map_some]
  have hplus : read? false ('+' :: rest) = some (repetition 1 none, rest) := by
    rw [read?, skipReluctant_of_head? h]
  change scanFrom? false outer ('[' :: '^' :: '|' :: '\\' :: 'n' :: ']' :: '+' :: rest) = _
  rw [scanFrom?_of_read? hset (by simp only [List.length_cons]; omega)]
  simp only [scopes]
  rw [scanFrom?_of_read? hplus (Nat.le_refl _), Option.map_map]
  rfl

/-- The tokens of the list in a marker. -/
def list : List Token :=
  [openGroup none []] ++ segment ++ [openGroup none [], literal { char := '|' }] ++ segment
    ++ [closeGroup, repetition 0 none, closeGroup]

theorem scanFrom?_listText (outer : List Bool) :
    scanFrom? false outer Marker.listText = some list := by
  let behind : Text := [')', '*', ')']
  let inner : Text := ['(', '?', ':', '\\', '|'] ++ (Marker.segmentText ++ behind)
  have hopen : read? false ('(' :: (Marker.segmentText ++ inner)) =
      some (openGroup none [], Marker.segmentText ++ inner) := rfl
  have hinner : read? false inner =
      some (openGroup none [], '\\' :: '|' :: (Marker.segmentText ++ behind)) := rfl
  have hbar : read? false ('\\' :: '|' :: (Marker.segmentText ++ behind)) =
      some (literal { char := '|' }, Marker.segmentText ++ behind) := rfl
  have hclose : read? false behind = some (closeGroup, ['*', ')']) := rfl
  have hstar : read? false ['*', ')'] = some (repetition 0 none, [')']) := rfl
  have hend : read? false [')'] = some (closeGroup, []) := rfl
  have hbehind : scanFrom? false (false :: false :: outer) behind =
      some [closeGroup, repetition 0 none, closeGroup] := by
    rw [scanFrom?_of_read? hclose (by decide)]
    simp only [scopes, List.headD_cons, List.tail_cons]
    rw [scanFrom?_of_read? hstar (by decide)]
    simp only [scopes]
    rw [scanFrom?_of_read? hend (by decide)]
    simp only [scopes, List.headD_cons, List.tail_cons]
    rw [scanFrom?]
    rfl
  have hinnerTokens : scanFrom? false (false :: outer) inner =
      some ([openGroup none [], literal { char := '|' }] ++ segment
        ++ [closeGroup, repetition 0 none, closeGroup]) := by
    rw [show inner = '(' :: _ from rfl, scanFrom?_of_read? hinner (by decide)]
    simp only [scopes, verboseAfter, List.lookup_nil, Option.getD_none]
    rw [scanFrom?_of_read? hbar (by decide)]
    simp only [scopes]
    rw [scanFrom?_segmentText_append (by decide), hbehind]
    rfl
  change scanFrom? false outer ('(' :: (Marker.segmentText ++ inner)) = _
  rw [scanFrom?_of_read? hopen (Nat.le_refl _)]
  simp only [scopes, verboseAfter, List.lookup_nil, Option.getD_none]
  rw [scanFrom?_segmentText_append (by decide), hinnerTokens]
  rfl

/-- The tokens of the pattern of a marker. -/
theorem scan?_patternText (token : Text) :
    scan? (Marker.patternText token) =
      some (literals token ++ blanks ++ literals Marker.tag ++ blanks ++ list) := by
  have htag : (escape Marker.tag ++ (Marker.blanksText ++ Marker.listText)).head? ≠ some '?' := by
    decide
  have hlist : Marker.listText.head? ≠ some '?' := by decide
  simp only [scan?, Marker.patternText, List.append_assoc, scanFrom?_escape_append,
    scanFrom?_blanksText_append htag, scanFrom?_blanksText_append hlist, scanFrom?_listText,
    Option.map_some]

end Token

/-! ## Putting parts together -/

theorem map_inRow {α β : Type} (f : α → β) (items : List (Pattern α)) :
    (inRow items).map f = inRow (items.map (map f)) := by
  have hfold : ∀ (others : List (Pattern α)) (first : Pattern α),
      (others.foldl sequence first).map f = (others.map (map f)).foldl sequence (first.map f) := by
    intro others
    induction others with
    | nil => exact fun first => rfl
    | cons p others ih => exact fun first => ih (sequence first p)
  cases items with
  | nil => rfl
  | cons first others => exact hfold others first

namespace Part

theorem pattern_ofList_sequence (parts : List Part) :
    (ofList .sequence parts).pattern = inRow (parts.map (·.pattern)) := by
  match parts with
  | [] => rfl
  | [part] => rfl
  | part :: next :: parts => simp [ofList, inRow, List.foldl_map]

/-- Many parts are one level above the deepest of them. -/
theorem depth_ofList_le {connect : Pattern Atom → Pattern Atom → Pattern Atom}
    {parts : List Part} {bound : Nat} (h : ∀ part ∈ parts, part.depth ≤ bound) :
    (ofList connect parts).depth ≤ bound + 1 := by
  have hfold : ∀ (others : List Part) (d : Nat), d ≤ bound →
      (∀ part ∈ others, part.depth ≤ bound) →
      others.foldl (fun d part => max d part.depth) d ≤ bound := by
    intro others
    induction others with
    | nil => exact fun d hd _ => hd
    | cons part others ih =>
        intro d hd hothers
        have hpart := hothers part List.mem_cons_self
        exact ih _ (Nat.max_le.mpr ⟨hd, hpart⟩) fun next hnext =>
          hothers next (List.mem_cons_of_mem part hnext)
  match parts with
  | [] => exact Nat.zero_le _
  | [part] => exact Nat.le_succ_of_le (h part List.mem_cons_self)
  | part :: next :: parts =>
      exact Nat.succ_le_succ (hfold _ _ (h part List.mem_cons_self) fun other hother =>
        h other (List.mem_cons_of_mem part hother))

end Part

/-! ## Reading -/

/-- The parts of a text that matches itself. -/
def literalParts (t : Text) : List Part :=
  t.map fun c => { pattern := .atom (.character (· = c)), depth := 0 }

/-- The part of the white space in a marker. -/
def blanksPart : Part where
  pattern := Marker.blanksPattern.map .character
  depth := 1

/-- The part of a segment. -/
def segmentPart : Part where
  pattern := CandidateList.segmentPattern.map .character
  depth := 3

/-- The part of the list in a marker. -/
def listPart : Part where
  pattern := CandidateList.pattern.map .character
  depth := 8

/-- The group with more parts. -/
def Group.addAll (g : Group) (parts : List Part) : Group :=
  parts.foldl Group.add g

section Reading

variable {g : Group} (hflags : g.flags = [.unicode]) (outer : List Group) (rest : List Token)

include hflags

theorem readTokens?_literals_append (t : Text) :
    readTokens? g outer (Token.literals t ++ rest) =
      readTokens? (g.addAll (literalParts t)) outer rest := by
  induction t generalizing g with
  | nil => rfl
  | cons c t ih =>
      have hmembers : literalMembers? g.flags { char := c } =
          some fun d => decide (d = c) := by
        rw [hflags]
        rfl
      have hread : readToken? g outer (.literal { char := c }) =
          some (g.add { pattern := .atom (.character (· = c)), depth := 0 }, outer) := by
        simp [readToken?, hmembers, Group.addAtom]
      change readTokens? g outer (.literal { char := c } :: (Token.literals t ++ rest)) = _
      rw [readTokens?, hread]
      exact ih hflags

theorem readTokens?_blanks_append :
    readTokens? g outer (Token.blanks ++ rest) = readTokens? (g.add blanksPart) outer rest := by
  obtain ⟨flags, branches, items⟩ := g
  obtain rfl : flags = [.unicode] := hflags
  rfl

theorem readTokens?_segment_append :
    readTokens? g outer (Token.segment ++ rest) = readTokens? (g.add segmentPart) outer rest := by
  have hmembers : Token.segmentSet.members? g.flags = some CandidateList.isSegmentChar := by
    have hnot : (fun c : Char => !(decide (c = '|') || decide (c = '\n'))) =
        CandidateList.isSegmentChar := by
      funext c
      simp [CandidateList.isSegmentChar]
    rw [hflags, ← hnot]
    rfl
  have hread : readToken? g outer (.set Token.segmentSet) =
      some (g.addAtom (.character CandidateList.isSegmentChar) 2, outer) := by
    simp only [readToken?, hmembers]
    rfl
  change readTokens? g outer (.set Token.segmentSet :: .repetition 1 none :: rest) = _
  rw [readTokens?, hread]
  rfl

theorem readTokens?_list : readTokens? g [] Token.list = some (g.add listPart).content := by
  obtain ⟨flags, branches, items⟩ := g
  obtain rfl : flags = [.unicode] := hflags
  let fresh : Group := { flags := [.unicode] }
  let behind : List Token := [.closeGroup, .repetition 0 none, .closeGroup]
  change readTokens? fresh [⟨[.unicode], branches, items⟩] (Token.segment
    ++ (.openGroup none [] :: (Token.literals ['|'] ++ (Token.segment ++ behind)))) = _
  rw [readTokens?_segment_append rfl]
  change readTokens? fresh [fresh.add segmentPart, ⟨[.unicode], branches, items⟩]
    (Token.literals ['|'] ++ (Token.segment ++ behind)) = _
  rw [readTokens?_literals_append rfl, readTokens?_segment_append rfl]
  rfl

end Reading

theorem Group.addAll_eq (g : Group) (parts : List Part) :
    g.addAll parts = { g with items := parts.reverse.map (·, true) ++ g.items } := by
  induction parts generalizing g with
  | nil => rfl
  | cons part parts ih =>
      change (g.add part).addAll parts = _
      rw [ih]
      simp [add]

/-- The content of a group without alternatives is the sequence of its parts. -/
theorem Group.content_addAll (flags : Flags) (parts : List Part) :
    (addAll { flags } parts).content = Part.ofList .sequence parts := by
  simp [addAll_eq, content, branch, Part.ofList, Function.comp_def]

/-- The parts of the pattern of a marker. -/
def markerParts (token : Text) : List Part :=
  literalParts token ++ [blanksPart] ++ literalParts Marker.tag ++ [blanksPart] ++ [listPart]

theorem readTokens?_marker (token : Text) :
    readTokens? { flags := [.unicode] } [] (Token.literals token ++ Token.blanks
      ++ Token.literals Marker.tag ++ Token.blanks ++ Token.list) =
      some (Part.ofList .sequence (markerParts token)) := by
  have hflags : ∀ parts, (Group.addAll { flags := [.unicode] } parts).flags = [.unicode] := by
    intro parts
    rw [Group.addAll_eq]
  have hadd : ∀ parts part, (Group.addAll { flags := [.unicode] } parts).add part =
      Group.addAll { flags := [.unicode] } (parts ++ [part]) := by
    intro parts part
    simp [Group.addAll]
  have haddAll : ∀ parts others, (Group.addAll { flags := [.unicode] } parts).addAll others =
      Group.addAll { flags := [.unicode] } (parts ++ others) := by
    intro parts others
    simp [Group.addAll]
  simp only [List.append_assoc]
  rw [readTokens?_literals_append rfl, readTokens?_blanks_append (hflags _), hadd,
    readTokens?_literals_append (hflags _), haddAll, readTokens?_blanks_append (hflags _), hadd,
    readTokens?_list (hflags _), hadd, Group.content_addAll, markerParts]

/-- **The pattern of a marker is the one that its text spells.** -/
theorem read?_patternText (token : Text) :
    read? [.unicode] (Marker.patternText token) =
      some ((Marker.pattern token).map .character) := by
  have hnames : (Token.literals token ++ Token.blanks ++ Token.literals Marker.tag ++ Token.blanks
      ++ Token.list).filterMap Token.groupName? = [] := by
    have hliterals : ∀ t, (Token.literals t).filterMap Token.groupName? = [] := by
      intro t
      simp [Token.literals, Token.groupName?]
    simp only [List.filterMap_append, hliterals]
    rfl
  have hdepth : (Part.ofList .sequence (markerParts token)).depth ≤ 8 + 1 := by
    refine Part.depth_ofList_le fun part hpart => ?_
    simp only [markerParts, literalParts, List.mem_append, List.mem_map, List.mem_singleton]
      at hpart
    rcases hpart with (((⟨c, -, rfl⟩ | rfl) | ⟨c, -, rfl⟩) | rfl) | rfl <;>
      exact Nat.le_of_ble_eq_true rfl
  have hpattern : (markerParts token).map (·.pattern) =
      (Marker.frontItems token ++ [CandidateList.pattern]).map (map .character) := by
    simp [markerParts, Marker.frontItems, literalParts, literal, blanksPart, listPart,
      Function.comp_def, map]
  have hlimit : (Part.ofList .sequence (markerParts token)).depth ≤ depthLimit :=
    hdepth.trans (by decide)
  simp only [read?, Token.scan?_patternText, Option.bind_eq_bind, Option.bind_some,
    readTokens?_marker, hnames, List.nodup_nil, hlimit]
  rw [Part.pattern_ofList_sequence, hpattern, ← map_inRow]
  rfl

end Pattern

end InlineChoice
