import InlineChoice.Proofs.Listing
import InlineChoice.Proofs.LowerCase
import InlineChoice.Proofs.Runs

/-!
# Ignoring case in a filter

A filter that ignores case looks for the lower case of its query in the lower case of a
name. A name that contains the query as it stands should be found all the more, and it is
found wherever the query keeps its lower case in the name (`accepts_of_not_sigmaClash`).

A capital sigma at an end of the query can be in the way, because the lower case of the
query alone and that of the name take it for two different letters. If it is in the way at
every place where the query stands, the name may be lost (`final_sigma_match_lost`).
`literal_match_ignoring_case` says that no other name is lost, for filters and for listings.
-/

namespace InlineChoice

open Unicode.CaseMapping

theorem Text.hasPart_iff {needle t : Text} : hasPart needle t = true ↔ needle <:+: t := by
  induction t with
  | nil => simp [hasPart]
  | cons c t ih =>
      rw [hasPart, Bool.or_eq_true, List.isPrefixOf_iff_prefix, ih, List.infix_cons_iff]

namespace NameFilter

/-! ## Literal filters -/

theorem accepts_literal_iff [PatternEngine] {query name : Text} :
    (ofQuery query true false).accepts name = true ↔ query <:+: name := by
  by_cases hempty : query = []
  · simp [ofQuery, accepts, hempty]
  · simp [ofQuery, accepts, hempty, Text.hasPart_iff]

theorem accepts_lower_iff [PatternEngine] {query name : Text} :
    (ofQuery query false false).accepts name = true ↔ lower query <:+: lower name := by
  by_cases hempty : query = []
  · simp [ofQuery, accepts, hempty, lower, lowerAfter]
  · simp [ofQuery, accepts, hempty, Text.hasPart_iff]

/-- A query that keeps its lower case at one place is found. -/
theorem accepts_of_not_sigmaClash [PatternEngine] {before query after : Text}
    (h : ¬ SigmaClash before query after) :
    (ofQuery query false false).accepts (before ++ query ++ after) = true := by
  obtain ⟨front, back, hplace⟩ := lower_place before query after
  rw [accepts_lower_iff, hplace, lowerBetween_eq_lower_iff.mpr h]
  exact ⟨front, back, rfl⟩

/-- The query stands in the name, but wherever it stands a capital sigma clashes. -/
structure OnlyClashes (query name : Text) : Prop where
  stands : query <:+: name
  clash (before after : Text) : name = before ++ query ++ after → SigmaClash before query after

/-- A match is lost to nothing but a capital sigma. -/
theorem accepts_or_onlyClashes [PatternEngine] {query name : Text}
    (h : (ofQuery query true false).accepts name = true) :
    (ofQuery query false false).accepts name = true ∨ OnlyClashes query name := by
  by_cases hplace : ∃ before after, name = before ++ query ++ after ∧
      ¬ SigmaClash before query after
  · obtain ⟨before, after, rfl, hclash⟩ := hplace
    exact Or.inl (accepts_of_not_sigmaClash hclash)
  · push Not at hplace
    exact Or.inr ⟨accepts_literal_iff.mp h, hplace⟩

end NameFilter

/-! ## Listings -/

namespace Listing

open NameFilter (ofQuery looksLikePattern OnlyClashes)

theorem filterOf_literal [PatternEngine] (request : ListRequest) {query : Text}
    (hquery : request.query = some query) (hliteral : request.asPattern = false)
    (hplain : looksLikePattern query = false) :
    filterOf request = ofQuery query request.caseSensitive false := by
  simp only [filterOf, hquery, hliteral, Option.getD_some, hplain, Bool.or_false]

/-- A filter that loses no entry of another one shows them in the same order. -/
theorem accepted_sublist [PatternEngine] {env : Environment} {settings : Settings} {config : Config}
    {files : List Text} {filter filter' : NameFilter}
    (h : ∀ e ∈ accepted env settings config files filter,
      e ∈ accepted env settings config files filter') :
    (accepted env settings config files filter).Sublist
      (accepted env settings config files filter') := by
  have hboth : accepted env settings config files filter =
      (accepted env settings config files filter').filter fun e =>
        filter.accepts (displayName e.found.choice) := by
    rw [accepted, accepted, List.filter_filter]
    refine List.filter_congr fun e he => ?_
    cases haccepts : filter.accepts (displayName e.found.choice) with
    | false => rfl
    | true =>
        have hmem := h e (List.mem_filter.mpr ⟨he, haccepts⟩)
        rw [(List.mem_filter.mp hmem).2]
        rfl
  rw [hboth]
  exact List.filter_sublist

end Listing

/-- **Ignoring case keeps a literal match**, unless a capital sigma is in the way at every
place where the query stands in the name. So a listing with a literal filter that ignores
case shows, in their order, all annotations that it shows with regard to case, apart from
those with such a name. -/
theorem literal_match_ignoring_case [PatternEngine] (query : Text) :
    (∀ name, (NameFilter.ofQuery query true false).accepts name = true →
      (NameFilter.ofQuery query false false).accepts name = true ∨
        NameFilter.OnlyClashes query name) ∧
    ∀ (env : Environment) (config : Config) (found : Option Location) (request : ListRequest),
      Config.load env.tree env.directory = .ok (config, found) →
      request.query = some query → request.asPattern = false →
      NameFilter.looksLikePattern query = false →
      let shown (caseSensitive : Bool) := Listing.accepted env request.settings config
        request.files (Listing.filterOf { request with caseSensitive })
      (∀ caseSensitive, ∃ listings,
        Listing.records listings = (shown caseSensitive).map Listing.Entry.record ∧
        ((Command.list { request with caseSensitive }).run env).output =
          if request.asJson then Listing.renderRecords listings
          else Listing.render env.colours listings) ∧
      (∀ e ∈ shown true, e ∈ shown false ∨
        NameFilter.OnlyClashes query (Listing.displayName e.found.choice)) ∧
      ((∀ e ∈ shown true,
          ¬ NameFilter.OnlyClashes query (Listing.displayName e.found.choice)) →
        (shown true).Sublist (shown false)) := by
  refine ⟨fun name h => NameFilter.accepts_or_onlyClashes h, ?_⟩
  intro env config found request hconfig hquery hliteral hplain shown
  have hfilter (caseSensitive : Bool) : Listing.filterOf { request with caseSensitive } =
      NameFilter.ofQuery query caseSensitive false :=
    Listing.filterOf_literal { request with caseSensitive } hquery hliteral hplain
  have hkept : ∀ e ∈ shown true, e ∈ shown false ∨
      NameFilter.OnlyClashes query (Listing.displayName e.found.choice) := by
    intro e he
    obtain ⟨hentry, haccepts⟩ := List.mem_filter.mp he
    rw [hfilter] at haccepts
    refine (NameFilter.accepts_or_onlyClashes haccepts).imp_left fun hlower => ?_
    rw [← hfilter] at hlower
    exact List.mem_filter.mpr ⟨hentry, hlower⟩
  refine ⟨fun caseSensitive => ?_, hkept, fun hclash => ?_⟩
  · exact Listing.output_run_accepted { request with caseSensitive } hconfig
  · exact Listing.accepted_sublist fun e he => (hkept e he).resolve_right (hclash e he)

section

open scoped PatternEngine

/-- A name with two places for the query: a word begins with the first sigma and ends with
the second. -/
theorem literal_match_ignoring_case_second_place :
    let query : Text := ['Σ']
    let name : Text := ['Σ', '_', 'À', 'Σ']
    let env : Environment :=
      { tree := .ofEntries [(["a".toList], .file (some "Σ_ÀΣ = 1 # [CB]: 1|0".toList))]
        directory := []
        colours := false }
    let request : ListRequest :=
      { files := ["a".toList], query := some query, caseSensitive := true, asPattern := false,
        asJson := true, settings := ⟨some "python".toList, false⟩ }
    let choice : Choice := ⟨⟨"#".toList, by decide⟩, some ⟨"Σ_ÀΣ =".toList, "1".toList, 10⟩,
      ["1".toList, "0".toList], "# [CB]: 1|0".toList, 12⟩
    let e : Listing.Entry := ⟨0, "a".toList, ⟨0, "Σ_ÀΣ = 1 # [CB]: 1|0".toList, choice⟩⟩
    (NameFilter.ofQuery query true false).accepts name = true ∧
    (NameFilter.ofQuery query false false).accepts name = true ∧
    e ∈ Listing.accepted env request.settings .default request.files (Listing.filterOf request) ∧
    e ∈ Listing.accepted env request.settings .default request.files
      (Listing.filterOf { request with caseSensitive := false }) := by
  intro query name env request choice e
  have haccepts : (NameFilter.ofQuery query true false).accepts name = true := by decide
  have hplace : ¬ NameFilter.OnlyClashes query name := by
    intro h
    cases h.clash [] ['_', 'À', 'Σ'] rfl with
    | first u v sigma ignored goesOn ends => cases goesOn
    | last u v sigma word ignored goesOn =>
        cases u with
        | nil => cases word
        | cons c u => exact absurd (List.cons.inj sigma).2 (by simp)
  have he : e ∈ Listing.accepted env request.settings .default request.files
      (Listing.filterOf request) := by
    refine List.mem_filter.mpr ⟨?_, haccepts⟩
    exact Listing.mem_entries_iff.mpr ⟨_, _, rfl, rfl, rfl, rfl⟩
  have hconfig : Config.load env.tree env.directory = .ok (.default, none) := rfl
  obtain ⟨hfilter, hlisting⟩ := literal_match_ignoring_case query
  obtain ⟨-, hshown, -⟩ := hlisting env .default none request hconfig rfl rfl rfl
  exact ⟨haccepts, (hfilter name haccepts).resolve_right hplace, he,
    (hshown e he).resolve_right hplace⟩

end

section

open scoped PatternEngine

/-- The query is a capital sigma, and so is the last letter of the name. -/
theorem final_sigma_match_lost :
    let query : Text := ['Σ']
    let name : Text := ['À', 'Σ']
    let env : Environment :=
      { tree := .ofEntries [(["a".toList], .file (some "ÀΣ = 1 # [CB]: 1|0".toList))]
        directory := []
        colours := false }
    let request (caseSensitive : Bool) : ListRequest :=
      { files := ["a".toList], query := some query, caseSensitive, asPattern := false,
        asJson := true, settings := ⟨some "python".toList, false⟩ }
    let choice : Choice := ⟨⟨"#".toList, by decide⟩, some ⟨"ÀΣ =".toList, "1".toList, 7⟩,
      ["1".toList, "0".toList], "# [CB]: 1|0".toList, 9⟩
    let e : Listing.Entry := ⟨0, "a".toList, ⟨0, "ÀΣ = 1 # [CB]: 1|0".toList, choice⟩⟩
    (NameFilter.ofQuery query true false).accepts name = true ∧
    (NameFilter.ofQuery query false false).accepts name = false ∧
    lower query = ['σ'] ∧ lower name = ['à', 'ς'] ∧
    ((Command.list (request true)).run env).output =
      Report.line (Json.pretty (.array [e.record.json])) ∧
    ((Command.list (request false)).run env).output = "[]\n".toList := by
  intro query name env request choice e
  have hquery : lower query = ['σ'] := rfl
  have hname : lower name = ['à', 'ς'] := by
    have hignored : Unicode.BinaryProperty.caseIgnorable.contains 'À' = false := by
      rw [Unicode.BinaryProperty.caseIgnorable, Unicode.RangeSet.contains_ofLines]
      decide +kernel
    have hcased : Unicode.BinaryProperty.cased.contains 'À' = true := by
      rw [Unicode.BinaryProperty.cased, Unicode.RangeSet.contains_ofLines]
      decide +kernel
    have hword : startsCased (['À'] : Text).reverse = true := by
      rw [List.reverse_singleton, startsCased, List.dropWhile_cons_of_neg (by simp [hignored]),
        List.head?_cons, Option.any_some, hcased]
    have hletter : lowerBetween [] ['À'] ['Σ'] = ['à'] := by decide +kernel
    rw [show name = ['À'] ++ ['Σ'] from rfl, lower_concat_sigma hword, hletter]
    rfl
  have hfilter (b : Bool) : Listing.filterOf (request b) = NameFilter.ofQuery query b false :=
    Listing.filterOf_literal (request b) rfl rfl rfl
  have haccepts : (NameFilter.ofQuery query true false).accepts name = true := by decide
  have hlost : (NameFilter.ofQuery query false false).accepts name = false := by
    rw [← Bool.not_eq_true, NameFilter.accepts_lower_iff, hquery, hname]
    decide
  have hconfig : Config.load env.tree env.directory = .ok (.default, none) := rfl
  have hentries : Listing.entries env ⟨some "python".toList, false⟩ .default ["a".toList] = [e] :=
    rfl
  have hshown (b : Bool) : Listing.accepted env (request b).settings .default (request b).files
      (Listing.filterOf (request b)) =
        if (NameFilter.ofQuery query b false).accepts name then [e] else [] := by
    have hdisplay : Listing.displayName e.found.choice = name := rfl
    rw [Listing.accepted, hentries, List.filter_singleton, hdisplay, hfilter, Bool.cond_eq_ite]
  refine ⟨haccepts, hlost, hquery, hname, ?_, ?_⟩
  · obtain ⟨listings, hrecords, houtput⟩ := Listing.output_run_accepted (request true) hconfig
    rw [houtput, if_pos rfl, Listing.renderRecords, hrecords, hshown, if_pos haccepts]
    rfl
  · obtain ⟨listings, hrecords, houtput⟩ := Listing.output_run_accepted (request false) hconfig
    rw [houtput, if_pos rfl, Listing.renderRecords, hrecords, hshown, hlost]
    rfl

end

end InlineChoice
