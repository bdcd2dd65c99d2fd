import InlineChoice.Config
import InlineChoice.Proofs.Text

/-!
# Overrides of the built-in languages

A comment syntax is made by overriding the built-in languages one call after the other. What
it says of one language, or of one path, is decided by the last call that says anything
about it, and the calls around that one can be exchanged, repeated or left out. Tokens and
languages are two views of a syntax that follow this one rule (`CommentSyntax.Follows`).

A configuration is such a run of calls, by increasing key, so for a file extension the
greatest of the keys that name it decides. Two keys that differ in leading dots or in ASCII
case name the same extension; the order among them is that of their encodings.
`Config.overrides_resolve` says so of configurations and of all other runs.
-/

namespace InlineChoice

/-! ## Dictionaries -/

theorem Text.precedes_irrefl (t : Text) : t.precedes t = false := by
  induction t with
  | nil => rfl
  | cons c t ih => simp [precedes, ih]

/-- A key is looked up where it stands, because it stands there only. -/
theorem Dictionary.get?_eq_some_iff {d : Dictionary} {key value : Text} :
    d.get? key = some value ↔ (key, value) ∈ d.entries := by
  rw [get?, List.lookup_eq_some_iff]
  constructor
  · intro h
    obtain ⟨before, after, hentries, -⟩ := h
    simp [hentries]
  · intro hmem
    obtain ⟨before, after, hentries⟩ := List.append_of_mem hmem
    refine ⟨before, after, hentries, ?_⟩
    intro entry hentry
    have hsorted : Sorted (before ++ (key, value) :: after) := hentries ▸ d.sorted
    have hbefore : entry.1.precedes key = true :=
      (List.pairwise_append.mp hsorted).2.2 entry hentry _ List.mem_cons_self
    rw [bne_iff_ne]
    rintro rfl
    rw [Text.precedes_irrefl] at hbefore
    cases hbefore

/-! ## Runs of calls -/

namespace CommentSyntax

/-- One override of the built-in languages. -/
inductive Override where
  /-- A comment token for a language. -/
  | token (language spelling : Text)
  /-- A language for a file extension. -/
  | extension (key language : Text)

/-- The syntax after one more override. -/
def Override.apply (syn : CommentSyntax) : Override → CommentSyntax
  | token language spelling => syn.withToken language spelling
  | extension key language => syn.withLanguage key language

/-- The syntax after some overrides. -/
def overridden (syn : CommentSyntax) (overrides : List Override) : CommentSyntax :=
  overrides.foldl Override.apply syn

/-- A key names an extension up to leading dots and ASCII case. -/
def Names (key extension : Text) : Prop :=
  Text.asciiLower (key.dropWhile (· = '.')) = extension.asciiLower

instance (key extension : Text) : Decidable (Names key extension) :=
  inferInstanceAs (Decidable (_ = _))

/-- What an override says of the token of a language. -/
def Override.token? (language : Text) : Override → Option Text
  | token language' spelling => if language' = language then some spelling else none
  | extension _ _ => none

/-- What an override says of the language of a path. -/
def Override.language? (path : FilePath) : Override → Option Text
  | token _ _ => none
  | extension key language =>
    if ∃ extension, path.extension? = some extension ∧ Names key extension then some language
    else none

/-- A view of a syntax is what the latest override says, if it says anything. -/
def Follows (view : CommentSyntax → Text) (said? : Override → Option Text) : Prop :=
  ∀ syn override, view (Override.apply syn override) = (said? override).getD (view syn)

section Follows

variable {view : CommentSyntax → Text} {said? : Override → Option Text} (h : Follows view said?)
  (syn : CommentSyntax)

include h

/-- Overrides that say nothing change nothing. -/
theorem Follows.of_silent {overrides : List Override} (hsilent : ∀ o ∈ overrides, said? o = none) :
    view (syn.overridden overrides) = view syn := by
  induction overrides generalizing syn with
  | nil => rfl
  | cons o overrides ih =>
      show view ((Override.apply syn o).overridden overrides) = view syn
      rw [ih _ fun o' ho' => hsilent o' (List.mem_cons_of_mem o ho'), h,
        hsilent o List.mem_cons_self]
      rfl

/-- **The last override decides**: the last one that says anything. -/
theorem Follows.of_last {before after : List Override} {o : Override} {value : Text}
    (hsaid : said? o = some value) (hsilent : ∀ o' ∈ after, said? o' = none) :
    view (syn.overridden (before ++ o :: after)) = value := by
  have hsplit : syn.overridden (before ++ o :: after) =
      (Override.apply (syn.overridden before) o).overridden after := by
    simp only [overridden, List.foldl_append, List.foldl_cons]
  rw [hsplit, h.of_silent _ hsilent, h, hsaid]
  rfl

end Follows

theorem follows_tokenFor (language : Text) :
    Follows (·.tokenFor language) (Override.token? language) := by
  intro syn override
  cases override with
  | token language' spelling =>
      by_cases heq : language' = language
      · simp [Override.apply, withToken, tokenFor, Override.token?, heq]
      · have hne : (language == language') = false := beq_eq_false_iff_ne.mpr fun h => heq h.symm
        simp [Override.apply, withToken, tokenFor, Override.token?, heq, List.lookup_cons, hne]
  | extension key language' => rfl

theorem follows_languageFor (path : FilePath) :
    Follows (·.languageFor path) (Override.language? path) := by
  intro syn override
  cases override with
  | token language spelling => rfl
  | extension key language =>
      cases hextension : path.extension? with
      | none => simp [Override.language?, languageFor, hextension]
      | some extension =>
          by_cases hnames : Names key extension
          · have hkey : normalExtension key = extension.asciiLower := hnames
            simp [Override.apply, withLanguage, languageFor, Override.language?, hextension,
              hnames, hkey]
          · have hkey : (extension.asciiLower == normalExtension key) = false :=
              beq_eq_false_iff_ne.mpr fun h => hnames h.symm
            simp [Override.apply, withLanguage, languageFor, Override.language?, hextension,
              hnames, List.lookup_cons, hkey]

section Runs

variable (syn : CommentSyntax) {before after : List Override} {path : FilePath}

theorem Override.token?_eq_none_of_forall {language : Text}
    (h : ∀ spelling, .token language spelling ∉ after) :
    ∀ o ∈ after, Override.token? language o = none := by
  intro o ho
  cases o with
  | token language' spelling =>
      refine if_neg ?_
      rintro rfl
      exact h spelling ho
  | extension key language' => rfl

theorem Override.language?_eq_none_of_forall
    (h : ∀ extension key language, path.extension? = some extension → Names key extension →
      .extension key language ∉ after) :
    ∀ o ∈ after, Override.language? path o = none := by
  intro o ho
  cases o with
  | token language spelling => rfl
  | extension key language =>
      refine if_neg ?_
      rintro ⟨extension, hpath, hnames⟩
      exact h extension key language hpath hnames ho

/-- The last override for a language gives it its token. -/
theorem tokenFor_of_last {language : Text} (spelling : Text)
    (h : ∀ spelling', .token language spelling' ∉ after) :
    (syn.overridden (before ++ .token language spelling :: after)).tokenFor language = spelling :=
  (follows_tokenFor language).of_last syn (if_pos rfl) (Override.token?_eq_none_of_forall h)

/-- A language without an override keeps its token. -/
theorem tokenFor_of_silent {language : Text} (h : ∀ spelling, .token language spelling ∉ after) :
    (syn.overridden after).tokenFor language = syn.tokenFor language :=
  (follows_tokenFor language).of_silent syn (Override.token?_eq_none_of_forall h)

/-- The last override for an extension gives the paths with this extension their language. -/
theorem languageFor_of_last {extension key : Text} (language : Text)
    (hpath : path.extension? = some extension) (hnames : Names key extension)
    (h : ∀ key' language', Names key' extension → .extension key' language' ∉ after) :
    (syn.overridden (before ++ .extension key language :: after)).languageFor path = language := by
  refine (follows_languageFor path).of_last syn (if_pos ⟨extension, hpath, hnames⟩) ?_
  refine Override.language?_eq_none_of_forall ?_
  intro extension' key' language' hpath' hnames'
  obtain rfl : extension = extension' := Option.some.inj (hpath.symm.trans hpath')
  exact h key' language' hnames'

/-- A path whose extension has no override keeps its language. -/
theorem languageFor_of_silent
    (h : ∀ extension key language, path.extension? = some extension → Names key extension →
      .extension key language ∉ after) :
    (syn.overridden after).languageFor path = syn.languageFor path :=
  (follows_languageFor path).of_silent syn (Override.language?_eq_none_of_forall h)

end Runs

end CommentSyntax

/-! ## The overrides of a configuration -/

/-- Of the members of a list with a property, one is the last. -/
theorem exists_last {α : Type} {p : α → Prop} {l : List α} (h : ∃ a ∈ l, p a) :
    ∃ before a after, l = before ++ a :: after ∧ p a ∧ ∀ b ∈ after, ¬ p b := by
  induction l with
  | nil =>
      obtain ⟨a, hmem, -⟩ := h
      cases hmem
  | cons c l ih =>
      by_cases hrest : ∃ a ∈ l, p a
      · obtain ⟨before, a, after, rfl, ha, hafter⟩ := ih hrest
        exact ⟨c :: before, a, after, rfl, ha, hafter⟩
      · push Not at hrest
        obtain ⟨a, hmem, ha⟩ := h
        rcases List.mem_cons.mp hmem with rfl | hmem
        · exact ⟨[], a, l, rfl, ha, hrest⟩
        · exact absurd ha (hrest a hmem)

namespace Config

open CommentSyntax (Override Names)

/-- The overrides that a configuration makes, in order. -/
def overrides (config : Config) : List Override :=
  config.commentTokens.entries.map (fun (language, spelling) => .token language spelling) ++
    config.languages.entries.map (fun (key, language) => .extension key language)

theorem commentSyntax_eq_overridden (config : Config) :
    config.commentSyntax = CommentSyntax.empty.overridden config.overrides := by
  simp only [CommentSyntax.overridden, overrides, List.foldl_append, List.foldl_map]
  rfl

/-- A language without a token of its own has the built-in one. -/
theorem tokenFor_commentSyntax (config : Config) (language : Text) :
    config.commentSyntax.tokenFor language =
      (config.commentTokens.get? language).getD (Language.commentToken language).text := by
  rw [commentSyntax_eq_overridden]
  cases hget : config.commentTokens.get? language with
  | none =>
      refine CommentSyntax.tokenFor_of_silent CommentSyntax.empty ?_
      intro spelling hmem
      have hentry : (language, spelling) ∈ config.commentTokens.entries := by
        simpa [overrides] using hmem
      cases hget.symm.trans (Dictionary.get?_eq_some_iff.mpr hentry)
  | some spelling =>
      obtain ⟨before, after, hentries⟩ :=
        List.append_of_mem (Dictionary.get?_eq_some_iff.mp hget)
      have hsorted : Dictionary.Sorted (before ++ (language, spelling) :: after) :=
        hentries ▸ config.commentTokens.sorted
      have hlater : ∀ entry ∈ after, language.precedes entry.1 = true :=
        (List.pairwise_cons.mp (List.pairwise_append.mp hsorted).2.1).1
      rw [overrides, hentries, List.map_append, List.map_cons, List.append_assoc, List.cons_append]
      refine CommentSyntax.tokenFor_of_last CommentSyntax.empty spelling ?_
      intro spelling' hmem
      have hentry : (language, spelling') ∈ after := by simpa using hmem
      have hself : language.precedes language = true := hlater _ hentry
      rw [Text.precedes_irrefl] at hself
      cases hself

/-- A configuration has a language under this key, and the key names the extension. -/
def Claims (config : Config) (extension key language : Text) : Prop :=
  config.languages.get? key = some language ∧ Names key extension

instance (config : Config) (extension key language : Text) :
    Decidable (config.Claims extension key language) :=
  inferInstanceAs (Decidable (_ ∧ _))

/-- A path whose extension no key names has its built-in language. -/
theorem languageFor_of_not_claims {config : Config} {path : FilePath}
    (h : ∀ extension key language, path.extension? = some extension →
      ¬ config.Claims extension key language) :
    config.commentSyntax.languageFor path = Language.ofPath path := by
  have hbuiltin : CommentSyntax.empty.languageFor path = Language.ofPath path := by
    rw [CommentSyntax.languageFor]
    cases path.extension? <;> rfl
  rw [commentSyntax_eq_overridden, ← hbuiltin]
  refine CommentSyntax.languageFor_of_silent CommentSyntax.empty ?_
  intro extension key language hpath hnames hmem
  have hentry : (key, language) ∈ config.languages.entries := by
    simpa [overrides] using hmem
  exact h extension key language hpath ⟨Dictionary.get?_eq_some_iff.mpr hentry, hnames⟩

theorem languageFor_of_extension?_eq_none (config : Config) {path : FilePath}
    (h : path.extension? = none) :
    config.commentSyntax.languageFor path = Language.plainText := by
  have hunnamed : ∀ extension key language, path.extension? = some extension →
      ¬ config.Claims extension key language := by
    intro extension key language hsome
    cases h.symm.trans hsome
  rw [languageFor_of_not_claims hunnamed, Language.ofPath, h]

/-- Of the keys that name the extension of a path, the greatest one decides. -/
theorem languageFor_of_claims {config : Config} {path : FilePath} {extension : Text}
    (hpath : path.extension? = some extension)
    (h : ∃ key language, config.Claims extension key language) :
    ∃ greatest language, config.Claims extension greatest language ∧
      (∀ key language', config.Claims extension key language' → key ≠ greatest →
        key.utf8 < greatest.utf8) ∧
      config.commentSyntax.languageFor path = language := by
  have hnamed : ∃ entry ∈ config.languages.entries, Names entry.1 extension := by
    obtain ⟨key, language, hget, hnames⟩ := h
    exact ⟨(key, language), Dictionary.get?_eq_some_iff.mp hget, hnames⟩
  obtain ⟨before, ⟨greatest, language⟩, after, hentries, hnames, hafter⟩ := exists_last hnamed
  have hsorted : Dictionary.Sorted (before ++ (greatest, language) :: after) :=
    hentries ▸ config.languages.sorted
  have hmem : (greatest, language) ∈ config.languages.entries := by simp [hentries]
  refine ⟨greatest, language, ⟨Dictionary.get?_eq_some_iff.mpr hmem, hnames⟩, ?_, ?_⟩
  · intro key language' hclaims hne
    obtain ⟨hget, hkey⟩ := hclaims
    have hentry := Dictionary.get?_eq_some_iff.mp hget
    rw [hentries, List.mem_append, List.mem_cons] at hentry
    rcases hentry with hbefore | hsame | hlater
    · exact Text.utf8_lt_of_precedes
        ((List.pairwise_append.mp hsorted).2.2 _ hbefore _ List.mem_cons_self)
    · exact absurd (congrArg Prod.fst hsame) hne
    · exact absurd hkey (hafter _ hlater)
  · rw [commentSyntax_eq_overridden, overrides, hentries, List.map_append, List.map_cons,
      ← List.append_assoc]
    refine CommentSyntax.languageFor_of_last CommentSyntax.empty language hpath hnames ?_
    intro key language' hkey hlater
    have hentry : (key, language') ∈ after := by simpa using hlater
    exact hafter _ hentry hkey

/-- **Overrides resolve exactly.** Whatever a configuration holds: if some of its keys name
the extension of a path, the greatest of them in the order of the encodings gives the
language, and otherwise the path has its built-in language, which is plain text where there
is no extension; a language has the token that the configuration gives it, and otherwise the
built-in one. In any run of overrides, on top of any syntax, the last override for a language
or for an extension decides, and where there is none nothing changes. -/
theorem overrides_resolve (config : Config) :
    (∀ (path : FilePath) (extension : Text), path.extension? = some extension →
      (∃ key language, config.Claims extension key language) →
      ∃ greatest language, config.Claims extension greatest language ∧
        (∀ key language', config.Claims extension key language' → key ≠ greatest →
          key.utf8 < greatest.utf8) ∧
        config.commentSyntax.languageFor path = language) ∧
    (∀ path : FilePath, (∀ extension key language, path.extension? = some extension →
        ¬ config.Claims extension key language) →
      config.commentSyntax.languageFor path = Language.ofPath path) ∧
    (∀ path : FilePath, path.extension? = none →
      config.commentSyntax.languageFor path = Language.plainText) ∧
    (∀ language, config.commentSyntax.tokenFor language =
      (config.commentTokens.get? language).getD (Language.commentToken language).text) ∧
    ∀ (syn : CommentSyntax) (before after : List Override),
      (∀ language spelling, (∀ spelling', .token language spelling' ∉ after) →
        (syn.overridden (before ++ .token language spelling :: after)).tokenFor language =
          spelling) ∧
      (∀ language, (∀ spelling, .token language spelling ∉ after) →
        (syn.overridden after).tokenFor language = syn.tokenFor language) ∧
      (∀ (path : FilePath) (extension key language : Text), path.extension? = some extension →
        Names key extension →
        (∀ key' language', Names key' extension → .extension key' language' ∉ after) →
        (syn.overridden (before ++ .extension key language :: after)).languageFor path =
          language) ∧
      (∀ path : FilePath, (∀ extension key language, path.extension? = some extension →
          Names key extension → .extension key language ∉ after) →
        (syn.overridden after).languageFor path = syn.languageFor path) := by
  refine ⟨fun path extension hpath h => languageFor_of_claims hpath h,
    fun path h => languageFor_of_not_claims h,
    fun path h => languageFor_of_extension?_eq_none config h,
    tokenFor_commentSyntax config, fun syn before after => ⟨?_, ?_, ?_, ?_⟩⟩
  · intro language spelling h
    exact CommentSyntax.tokenFor_of_last syn spelling h
  · intro language h
    exact CommentSyntax.tokenFor_of_silent syn h
  · intro path extension key language hpath hnames h
    exact CommentSyntax.languageFor_of_last syn language hpath hnames h
  · intro path h
    exact CommentSyntax.languageFor_of_silent syn h

/-- Three of four keys name one extension, and the greatest of them is spelled in another
way. The token that it leads to is not one that would be accepted. -/
theorem overrides_resolve_keys_of_one_extension :
    let config : Config :=
      { languages := .ofList [("lua".toList, "a".toList), ("Lua".toList, "b".toList),
          ("..LUA".toList, "c".toList), ("lua.".toList, "d".toList)]
        commentTokens := .ofList [("a".toList, "; ;".toList)] }
    let path := FilePath.ofText "x.y/.z.Lua".toList
    let syn := config.commentSyntax.overridden
      ([.token "d".toList "%".toList] ++ .extension "LUA".toList "e".toList ::
        [.token "e".toList "!".toList, .extension "lu".toList "f".toList])
    (∃ greatest, config.Claims "Lua".toList greatest "a".toList ∧
      ∀ key language, config.Claims "Lua".toList key language → key ≠ greatest →
        key.utf8 < greatest.utf8) ∧
    config.commentSyntax.languageFor path = "a".toList ∧
    config.commentSyntax.languageFor (FilePath.ofText "lua".toList) = Language.plainText ∧
    config.commentSyntax.tokenFor "a".toList = "; ;".toList ∧
    syn.languageFor path = "e".toList := by
  intro config path syn
  obtain ⟨hclaimed, -, hplain, htoken, hruns⟩ := overrides_resolve config
  obtain ⟨-, -, hlast, -⟩ := hruns config.commentSyntax [.token "d".toList "%".toList]
    [.token "e".toList "!".toList, .extension "lu".toList "f".toList]
  have hpath : path.extension? = some "Lua".toList := by decide +kernel
  obtain ⟨greatest, language, hclaims, hgreatest, hlanguage⟩ :=
    hclaimed path "Lua".toList hpath ⟨"lua".toList, "a".toList, by decide⟩
  have hvalue : config.commentSyntax.languageFor path = "a".toList := by decide +kernel
  obtain rfl : "a".toList = language := hvalue.symm.trans hlanguage
  have hend : syn.languageFor path = "e".toList := by
    refine hlast path "Lua".toList "LUA".toList "e".toList hpath (by decide) ?_
    intro key language hnames hmem
    obtain ⟨rfl, rfl⟩ : key = "lu".toList ∧ language = "f".toList := by simpa using hmem
    exact absurd hnames (by decide)
  exact ⟨⟨greatest, hclaims, hgreatest⟩, hvalue, hplain _ (by decide +kernel),
    (htoken "a".toList).trans (by decide), hend⟩

end Config

end InlineChoice
