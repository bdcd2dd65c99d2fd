import InlineChoice.Choice
import InlineChoice.Proofs.Marker

/-!
# The theory of annotations

An annotated assignment cuts its line into six parts, and every field of the
annotation is one of them or its place:

    <target> <before> <value> <after> <marker> <tail>

`Choice.Parts` states this partition, with the byte ranges that point at the
value and at the marker, and `parts_of_parse?` says that each annotation with an
assignment has it. Nothing is assumed about the token here: it may hold white
space, `=` signs or the tag itself.

A target is a text up to the end of its first run of `=` signs. It is fixed by
the text in front of the marker, however much of that text is exchanged behind it
(`Assignment.exists_target_of_ofHead?`, `Assignment.ofHead?_target_append`).
-/

namespace InlineChoice

/-- The part of a text in a byte range, if both ends are character boundaries. -/
def Text.slice? (t : Text) (range : ByteRange) : Option Text := do
  (← t.takeBytes? range.stop).dropBytes? range.start

/-- The range behind a front part of the size of the next part holds that part. -/
theorem Text.slice?_middle (front part rest : Text) :
    Text.slice? (front ++ part ++ rest)
      ⟨front.byteSize, front.byteSize + part.byteSize⟩ = some part := by
  rw [Text.slice?, ← Text.byteSize_append, Text.takeBytes?_byteSize_append]
  exact Text.dropBytes?_byteSize_append front part

/-! ## Targets -/

namespace Assignment

/-- A text that ends with a run of `=` signs and has none before it. -/
def IsTarget (target : Text) : Prop :=
  ∃ name run, target = name ++ run ∧ '=' ∉ name ∧ run ≠ [] ∧ ∀ c ∈ run, c = '='

theorem IsTarget.eq_append {target : Text} (h : IsTarget target) :
    ∃ front, target = front ++ ['='] := by
  obtain ⟨name, run, rfl, -, hne, hrun⟩ := h
  obtain ⟨front, last, rfl⟩ : ∃ front last, run = front ++ [last] :=
    (List.eq_nil_or_concat' run).resolve_left hne
  obtain rfl : last = '=' := hrun last (by simp)
  exact ⟨name ++ front, by rw [List.append_assoc]⟩

/-- The text in front of a marker is a target and a rest that does not go on with
an `=` sign, if it has an `=` sign at all. -/
theorem exists_target_of_ofHead? {head : Text} {asg : Assignment} (h : ofHead? head = some asg) :
    ∃ rest, head = asg.target ++ rest ∧ IsTarget asg.target ∧ rest.head? ≠ some '=' ∧
      asg.value = rest.trim ∧
      asg.valueStart = asg.target.byteSize + Text.byteSize (rest.takeWhile Text.isBlank) := by
  simp only [ofHead?] at h
  split at h
  · cases h
  next hfrom =>
  cases h
  have hname : '=' ∉ head.takeWhile (· ≠ '=') := by
    intro hmem
    simpa using List.mem_takeWhile_imp hmem
  have hrun : (head.dropWhile (· ≠ '=')).takeWhile (· = '=') ≠ [] := by
    obtain ⟨c, rest, hcons⟩ := List.exists_cons_of_ne_nil hfrom
    have hc := List.head?_dropWhile_not (· ≠ '=') head
    rw [hcons] at hc ⊢
    obtain rfl : c = '=' := by simpa using hc
    simp
  have hall : ∀ c ∈ (head.dropWhile (· ≠ '=')).takeWhile (· = '='), c = '=' := by
    intro c hmem
    simpa using List.mem_takeWhile_imp hmem
  have hrest : ((head.dropWhile (· ≠ '=')).dropWhile (· = '=')).head? ≠ some '=' := by
    intro hhead
    have hnot := List.head?_dropWhile_not (· = '=') (head.dropWhile (· ≠ '='))
    rw [hhead] at hnot
    simp at hnot
  refine ⟨(head.dropWhile (· ≠ '=')).dropWhile (· = '='), ?_,
    ⟨_, _, rfl, hname, hrun, hall⟩, hrest, rfl, rfl⟩
  rw [List.append_assoc, List.takeWhile_append_dropWhile, List.takeWhile_append_dropWhile]

/-- The converse: behind a target, any text that does not go on with an `=` sign
gives the trimmed text as value. -/
theorem ofHead?_target_append {target rest : Text} (htarget : IsTarget target)
    (hrest : rest.head? ≠ some '=') :
    ofHead? (target ++ rest) =
      some ⟨target, rest.trim,
        target.byteSize + Text.byteSize (rest.takeWhile Text.isBlank)⟩ := by
  obtain ⟨name, run, rfl, hname, hne, hrun⟩ := htarget
  have hnameAll : ∀ c ∈ name, decide (c ≠ '=') = true :=
    fun c hc => decide_eq_true fun h => hname (h ▸ hc)
  have hrunAll : ∀ c ∈ run, decide (c = '=') = true :=
    fun c hc => decide_eq_true (hrun c hc)
  have hrunHead : ∀ c, (run ++ rest).head? = some c → decide (c ≠ '=') = false := by
    intro c hc
    obtain ⟨first, others, rfl⟩ := List.exists_cons_of_ne_nil hne
    obtain rfl : first = c := by simpa using hc
    simp [hrun first (by simp)]
  have hrestHead : ∀ c, rest.head? = some c → decide (c = '=') = false := by
    intro c hc
    exact decide_eq_false fun h => hrest (h ▸ hc)
  have hfrom : run ++ rest ≠ [] := by simp [hne]
  simp only [ofHead?, List.append_assoc, Text.takeWhile_run hnameAll hrunHead,
    Text.dropWhile_run hnameAll hrunHead, Text.takeWhile_run hrunAll hrestHead,
    Text.dropWhile_run hrunAll hrestHead, if_neg hfrom]

end Assignment

/-! ## Annotations -/

namespace CommentToken

/-- A token is spelled by its text, if the pattern of its markers compiles. -/
theorem ofText?_eq_some_iff [PatternEngine] {t : Text} {token : CommentToken} :
    ofText? t = some token ↔ token.text = t ∧ Marker.compiles t := by
  obtain ⟨text, hne⟩ := token
  rw [ofText?]
  constructor
  · intro h
    split at h
    · cases h
    split at h
    · next compiles =>
        cases h
        exact ⟨rfl, compiles⟩
    · cases h
  · rintro ⟨rfl, compiles⟩
    rw [dif_neg hne, if_pos compiles]

end CommentToken

namespace Choice

/-- An annotation is read off the leftmost marker and the text in front of it. -/
theorem parse?_eq_some_iff {token : CommentToken} {line : Text} {a : Choice} :
    parse? token line = some a ↔
      ∃ head m, Marker.find? token line = some (head, m) ∧ m.candidates ≠ [] ∧
        a = ⟨token, Assignment.ofHead? head, m.candidates, m.span, head.byteSize⟩ := by
  rw [parse?]
  constructor
  · intro h
    obtain ⟨⟨head, m⟩, hfind, h⟩ := Option.bind_eq_some_iff.mp h
    simp only at h
    split at h
    · cases h
    · next hne =>
        cases h
        exact ⟨head, m, hfind, hne, rfl⟩
  · rintro ⟨head, m, hfind, hne, rfl⟩
    simp only [hfind, Option.bind_eq_bind, Option.bind_some, if_neg hne]

/-- Reading with a token given as text is reading with the token, if its pattern compiles. -/
theorem parseWith?_text_eq_some_iff [PatternEngine] {token : CommentToken} {line : Text}
    {a : Choice} :
    parseWith? token.text line = some a ↔
      Marker.compiles token.text ∧ parse? token line = some a := by
  constructor
  · intro h
    obtain ⟨t, htoken, hparse⟩ := Option.bind_eq_some_iff.mp h
    obtain ⟨htext, compiles⟩ := CommentToken.ofText?_eq_some_iff.mp htoken
    obtain ⟨text, hne⟩ := token
    obtain rfl : t.text = text := htext
    exact ⟨compiles, hparse⟩
  · rintro ⟨compiles, hparse⟩
    rw [parseWith?, CommentToken.ofText?_eq_some_iff.mpr ⟨rfl, compiles⟩]
    exact hparse

/-- Only a text that is a token annotates anything. -/
theorem exists_token_of_parseWith? [PatternEngine] {token line : Text} {a : Choice}
    (h : parseWith? token line = some a) :
    ∃ t : CommentToken, t.text = token ∧ parse? t line = some a := by
  obtain ⟨t, htoken, hparse⟩ := Option.bind_eq_some_iff.mp h
  exact ⟨t, (CommentToken.ofText?_eq_some_iff.mp htoken).1, hparse⟩

/-! ## The parts of an annotated line -/

/-- The parts of a line with an annotated assignment, in order, and the byte
ranges of the two parts that an annotation points at. -/
structure Parts (a : Choice) (asg : Assignment) (line before after tail : Text) : Prop where
  line_eq : line = asg.target ++ before ++ asg.value ++ after ++ a.marker ++ tail
  before_blank : Text.AllBlank before
  after_blank : Text.AllBlank after
  value_trim : asg.value.trim = asg.value
  isTarget : Assignment.IsTarget asg.target
  run_ends : (before ++ asg.value ++ after).head? ≠ some '='
  valueRange_eq : asg.valueRange =
    ⟨Text.byteSize (asg.target ++ before), Text.byteSize (asg.target ++ before ++ asg.value)⟩
  markerRange_eq : a.markerRange =
    ⟨Text.byteSize (asg.target ++ before ++ asg.value ++ after),
      Text.byteSize (asg.target ++ before ++ asg.value ++ after ++ a.marker)⟩
  value_slice : line.slice? asg.valueRange = some asg.value
  marker_slice : line.slice? a.markerRange = some a.marker
  empty_value : asg.value = [] → asg.valueRange = ⟨a.markerRange.start, a.markerRange.start⟩

/-- The tail of the line is what the byte offset of the marker's end cuts off. -/
theorem Parts.dropBytes? {a : Choice} {asg : Assignment} {line before after tail : Text}
    (h : a.Parts asg line before after tail) :
    line.dropBytes? a.markerRange.stop = some tail := by
  rw [h.markerRange_eq, h.line_eq, Text.dropBytes?_byteSize_append]

/-- Every annotated assignment cuts its line into parts. -/
theorem parts_of_parse? {token : CommentToken} {line : Text} {a : Choice} {asg : Assignment}
    (h : parse? token line = some a) (hasg : a.assignment = some asg) :
    ∃ before after tail, a.Parts asg line before after tail := by
  obtain ⟨head, m, hfind, -, rfl⟩ := parse?_eq_some_iff.mp h
  obtain ⟨rfl, -⟩ := Marker.find?_eq_some_iff.mp hfind
  obtain ⟨target, value, start⟩ := asg
  obtain ⟨rest, hhead, htarget, hrest, hvalue, hstart⟩ :=
    Assignment.exists_target_of_ofHead? hasg
  simp only at hhead htarget hvalue hstart
  obtain ⟨after, hsplit, hafter, hempty⟩ := Text.exists_trim rest
  rw [← hvalue] at hsplit hempty
  have hbefore := Text.allBlank_takeWhile rest
  generalize rest.takeWhile Text.isBlank = before at hstart hsplit hbefore
  subst hhead hsplit hstart
  have hline : target ++ (before ++ value ++ after) ++ (m.span ++ m.tail) =
      target ++ before ++ value ++ after ++ m.span ++ m.tail := by
    simp only [List.append_assoc]
  refine ⟨before, after, m.tail, ?_⟩
  refine
    { line_eq := hline
      before_blank := hbefore
      after_blank := hafter
      value_trim := ?_
      isTarget := htarget
      run_ends := hrest
      valueRange_eq := ?_
      markerRange_eq := ?_
      value_slice := ?_
      marker_slice := ?_
      empty_value := ?_ }
  · calc value.trim
        = (Text.trim (before ++ value ++ after)).trim := congrArg Text.trim hvalue
      _ = Text.trim (before ++ value ++ after) := Text.trim_trim _
      _ = value := hvalue.symm
  · simp only [Assignment.valueRange, Text.byteSize_append]
  · simp only [markerRange, Text.byteSize_append, Nat.add_assoc]
  · have hfront : target ++ before ++ value ++ after ++ m.span ++ m.tail =
        target ++ before ++ value ++ (after ++ m.span ++ m.tail) := by
      simp only [List.append_assoc]
    rw [hline, hfront, Assignment.valueRange, ← Text.byteSize_append]
    exact Text.slice?_middle (target ++ before) value _
  · rw [hline, markerRange, ← List.append_assoc, ← List.append_assoc]
    exact Text.slice?_middle _ m.span m.tail
  · intro hnil
    simp only at hnil
    rw [hempty hnil, hnil]
    simp [Assignment.valueRange, markerRange]

end Choice

end InlineChoice
