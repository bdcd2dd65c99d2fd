import InlineChoice.Proofs.FileTree
import InlineChoice.Proofs.Overrides
import InlineChoice.Proofs.Scan
import Mathlib.Data.Option.Basic

/-!
# The comment tokens of a configuration

A configuration may give any language any token, and the markers of a token that holds
white space could not be told from the white space around them; an empty token has no
markers at all. So a configuration is looked at entry by entry before it is accepted
(`Config.fault?_eq_none_iff`), and the configuration that is there without a file would be
accepted too.

`Config.unbroken_of_load` says that a configuration in force gives no language such a token:
the tokens that it declares have been looked at, and all others are built in. How long a token
is nobody looks at, so that the engine admits its pattern is a hypothesis. A document is then
never passed over as a whole (`Document.exists_found_bareMarker`), whatever language it is
taken for.
-/

namespace InlineChoice

open Marker (UnbrokenToken PlainToken)

theorem Language.plain_commentToken (language : Text) :
    PlainToken (commentToken language).text := by
  rw [commentToken]
  split <;> decide

/-! ## Accepted configurations -/

namespace Config

theorem tokenFault?_eq_none_iff {language token : Text} :
    tokenFault? language token = none ↔ language.trim ≠ [] ∧ UnbrokenToken token := by
  have hunbroken : UnbrokenToken token ↔
      (token = [] || token.any Text.isBlank) = false := by
    rw [Bool.or_eq_false_iff, decide_eq_false_iff_not, List.any_eq_false]
    constructor
    · rintro ⟨hne, hblank⟩
      exact ⟨hne, fun c hc => by simp [hblank c hc]⟩
    · rintro ⟨hne, hblank⟩
      exact ⟨hne, fun c hc => eq_false_of_ne_true (hblank c hc)⟩
  rw [hunbroken, tokenFault?]
  by_cases hlanguage : language.trim = []
  · simp [hlanguage]
  · cases (token = [] || token.any Text.isBlank : Bool) <;> simp [hlanguage]

theorem extensionFault?_eq_none_iff {extension language : Text} :
    extensionFault? extension language = none ↔
      Text.trim (extension.dropWhile (· = '.')) ≠ [] ∧ language.trim ≠ [] := by
  rw [extensionFault?]
  by_cases hextension : Text.trim (extension.dropWhile (· = '.')) = []
  · simp [hextension]
  · by_cases hlanguage : language.trim = [] <;> simp [hextension, hlanguage]

/-- **What is accepted**: no key and no language is blank, not even behind leading dots, and
every token is unbroken. -/
theorem fault?_eq_none_iff {config : Config} :
    config.fault? = none ↔
      (∀ language token, config.commentTokens.get? language = some token →
        language.trim ≠ [] ∧ UnbrokenToken token) ∧
      ∀ extension language, config.languages.get? extension = some language →
        Text.trim (extension.dropWhile (· = '.')) ≠ [] ∧ language.trim ≠ [] := by
  rw [fault?, Option.orElse_eq_none, List.findSome?_eq_none_iff, List.findSome?_eq_none_iff]
  simp only [Dictionary.get?_eq_some_iff, Prod.forall, tokenFault?_eq_none_iff,
    extensionFault?_eq_none_iff]

/-- A configuration without fault declares unbroken tokens only. -/
theorem unbroken_of_fault?_eq_none {config : Config} (h : config.fault? = none)
    (language : Text) : UnbrokenToken (config.commentSyntax.tokenFor language) := by
  obtain ⟨htokens, -⟩ := fault?_eq_none_iff.mp h
  rw [tokenFor_commentSyntax]
  cases hget : config.commentTokens.get? language with
  | none => exact (Language.plain_commentToken language).unbroken
  | some token => exact (htokens language token hget).2

/-! ## Loaded configurations -/

/-- A file is read, its text is read, and what the text says is accepted, or the first of
these that fails is the fault. -/
theorem loadAt_eq (tree : FileTree) (place : Location) :
    loadAt tree place = match tree.readAt place with
      | .error fault => .error (.unreadable place fault)
      | .ok text => match read text with
        | .error fault => .error (.malformed place fault)
        | .ok config => match config.fault? with
          | some fault => .error (.refused fault)
          | none => .ok config := by
  rw [loadAt]
  cases tree.readAt place with
  | error fault => rfl
  | ok text =>
      simp only [Except.mapError, bind, Except.bind]
      cases read text with
      | error fault => rfl
      | ok config => cases hfault : config.fault? <;> simp only [hfault] <;> rfl

/-- A configuration is loaded from a text that reads as it, if it is accepted. -/
theorem loadAt_eq_ok_iff {tree : FileTree} {place : Location} {config : Config} :
    loadAt tree place = .ok config ↔
      (∃ text, tree.readAt place = .ok text ∧ read text = .ok config) ∧ config.fault? = none := by
  constructor
  · intro h
    rw [loadAt_eq] at h
    cases htext : tree.readAt place with
    | error fault =>
        rw [htext] at h
        cases h
    | ok text =>
    cases hread : read text with
    | error fault =>
        simp only [htext, hread] at h
        cases h
    | ok candidate =>
    cases hfault : candidate.fault? with
    | some fault =>
        simp only [htext, hread, hfault] at h
        cases h
    | none =>
        simp only [htext, hread, hfault] at h
        cases h
        exact ⟨⟨text, rfl, hread⟩, hfault⟩
  · rintro ⟨⟨text, htext, hread⟩, hfault⟩
    rw [loadAt_eq]
    simp only [htext, hread, hfault]

/-- A configuration that is loaded has been accepted; the default one would be. -/
theorem fault?_of_load {tree : FileTree} {directory : Location} {config : Config}
    {found : Option Location} (h : load tree directory = .ok (config, found)) :
    config.fault? = none := by
  obtain ⟨-, hconfig⟩ := load_eq_ok_iff.mp h
  cases found with
  | none =>
      rw [hconfig]
      rfl
  | some place => exact (loadAt_eq_ok_iff.mp hconfig).2

/-- **Tokens in force are unbroken.** Whatever language is asked for, a configuration that
has been loaded gives a token that is not empty and holds no white space. -/
theorem unbroken_of_load {tree : FileTree} {directory : Location} {config : Config}
    {found : Option Location} (h : load tree directory = .ok (config, found))
    (language : Text) : UnbrokenToken (config.commentSyntax.tokenFor language) :=
  unbroken_of_fault?_eq_none (fault?_of_load h) language

end Config

/-! ## Scans with such a token -/

/-- A marker of a token that is nothing but the tag and one candidate. -/
def bareMarker (token : Text) : Text :=
  token ++ Marker.tag ++ ['x']

theorem Choice.parse?_bareMarker (token : CommentToken) :
    ∃ a, parse? token (bareMarker token.text) = some a := by
  have hstart : Marker.listStart? (([] : Text) ++ ['x']) = some ([], ['x']) := by decide
  have hread : Marker.readAt? token (bareMarker token.text) =
      some (Marker.ofParts token [] [] ['x']) := by
    refine Marker.readAt?_eq_some_iff.mpr ⟨[], [], ['x'], Text.AllBlank.nil, ?_, hstart, rfl⟩
    rw [bareMarker, List.append_nil]
    rfl
  have hcandidates : (Marker.ofParts token [] [] ['x']).candidates ≠ [] := by
    show CandidateList.candidates ['x'] ≠ []
    decide
  exact ⟨_, parse?_eq_some_iff.mpr
    ⟨[], _, Marker.find?_of_readAt? hread, hcandidates, rfl⟩⟩

/-- A scan with a token finds the bare annotation of this token on every line. -/
theorem Document.exists_found_bareMarker [PatternEngine] {doc : Document} {syn : CommentSyntax}
    {token : CommentToken} (htoken : doc.token? syn = some token) {index : Nat}
    (hline : doc.line? index = some (bareMarker token.text)) :
    ∃ found ∈ doc.scan syn, found.index = index := by
  obtain ⟨a, hparse⟩ := Choice.parse?_bareMarker token
  refine ⟨⟨index, bareMarker token.text, a⟩, mem_scan_iff.mpr ⟨hline, ?_⟩, rfl⟩
  exact Option.bind_eq_some_iff.mpr ⟨token, htoken, hparse⟩

namespace Config

/-- **Tokens in force are usable.** A configuration is accepted exactly if none of its keys
and languages is blank and all of its tokens are unbroken. One that is loaded, from a file or
as the default, gives every language and every path an unbroken token. Where the engine admits
the pattern of that token, a scan of a document in the language looks at each line with the
token and finds all its annotations. -/
theorem loaded_tokens_usable [PatternEngine] :
    (∀ config : Config, config.fault? = none ↔
      (∀ language token, config.commentTokens.get? language = some token →
        language.trim ≠ [] ∧ UnbrokenToken token) ∧
      ∀ extension language, config.languages.get? extension = some language →
        Text.trim (extension.dropWhile (· = '.')) ≠ [] ∧ language.trim ≠ []) ∧
    ∀ (tree : FileTree) (directory : Location) (config : Config) (found : Option Location),
      load tree directory = .ok (config, found) →
      let syn := config.commentSyntax
      (∀ path : FilePath, UnbrokenToken (syn.tokenFor (syn.languageFor path))) ∧
      ∀ language, UnbrokenToken (syn.tokenFor language) ∧
        (Marker.compiles (syn.tokenFor language) →
        ∃ token, CommentToken.ofText? (syn.tokenFor language) = some token ∧
          token.text = syn.tokenFor language ∧
          ∀ text, let doc := Document.ofText language text
            doc.token? syn = some token ∧
            (∀ found : AnnotatedLine, found ∈ doc.scan syn ↔
              doc.line? found.index = some found.text ∧
                Choice.parse? token found.text = some found.choice) ∧
            ∀ index, doc.line? index = some (bareMarker token.text) →
              ∃ found ∈ doc.scan syn, found.index = index) := by
  refine ⟨fun config => fault?_eq_none_iff, ?_⟩
  intro tree directory config found hload syn
  have hunbroken (language : Text) : UnbrokenToken (syn.tokenFor language) :=
    unbroken_of_load hload language
  refine ⟨fun path => hunbroken _, fun language => ⟨hunbroken language, fun compiles => ?_⟩⟩
  have htoken : CommentToken.ofText? (syn.tokenFor language) =
      some ⟨syn.tokenFor language, (hunbroken language).ne_nil⟩ :=
    CommentToken.ofText?_eq_some_iff.mpr ⟨rfl, compiles⟩
  refine ⟨_, htoken, rfl, ?_⟩
  intro text doc
  have hdocument : doc.token? syn = some _ := htoken
  refine ⟨hdocument, ?_, ?_⟩
  · intro found
    have hlanguage : syn.tokenFor doc.language = syn.tokenFor language := rfl
    rw [Document.mem_scan_iff, hlanguage, Choice.parseWith?, htoken]
    rfl
  · intro index hline
    exact Document.exists_found_bareMarker hdocument hline

section

open scoped PatternEngine

/-- A file that leaves out the languages, with a token that the tag ends. -/
theorem loaded_tokens_usable_tag_in_token :
    let place : Location := ["w".toList, fileName]
    let tree : FileTree := .ofEntries
      [(place, .file (some "\x7b\"commentTokens\": \x7b\"a b\": \"#[CB]:\"\x7d\x7d".toList))]
    let config : Config := ⟨.empty, .ofList [("a b".toList, "#[CB]:".toList)]⟩
    let doc := Document.ofText "a b".toList "\n#[CB]:[CB]:x\r\n".toList
    load tree ["w".toList, "s".toList] = .ok (config, some place) ∧
    (Text.trim "a b".toList ≠ [] ∧ UnbrokenToken "#[CB]:".toList) ∧
    UnbrokenToken (config.commentSyntax.tokenFor "a b".toList) ∧
    Marker.compiles (config.commentSyntax.tokenFor "a b".toList) ∧
    ∃ found ∈ doc.scan config.commentSyntax, found.index = 1 := by
  intro place tree config doc
  obtain ⟨haccepted, hloaded⟩ := loaded_tokens_usable
  have hload : load tree ["w".toList, "s".toList] = .ok (config, some place) := by rfl
  obtain ⟨-, hlanguage⟩ := hloaded tree _ config _ hload
  obtain ⟨hunbroken, husable⟩ := hlanguage "a b".toList
  obtain ⟨token, -, htoken, hdocument⟩ := husable rfl
  obtain ⟨-, -, hbare⟩ := hdocument "\n#[CB]:[CB]:x\r\n".toList
  have htext : token.text = "#[CB]:".toList := htoken
  have hline : doc.line? 1 = some (bareMarker token.text) := by
    rw [htext]
    decide
  have hentry : config.commentTokens.get? "a b".toList = some "#[CB]:".toList := by decide
  exact ⟨hload, ((haccepted config).mp rfl).1 _ _ hentry, hunbroken, rfl, hbare 1 hline⟩

end

end Config

end InlineChoice
