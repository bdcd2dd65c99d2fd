import InlineChoice.Proofs.Checking
import Mathlib.Data.List.Sort

/-!
# The order of issues

Issues are compared by file, line, column and rule, and nothing else of them is looked
at. So issues that differ may be equal in the order, and a stable sort would then show
in which order they were found.

Among the issues of one check this does not happen (`Checking.eq_of_order_eq`): the
file and the line of an issue determine the site, up to repetitions of a path, and
the site determines the issue. A report of such issues depends only on how often each
of them occurs (`Report.print_perm`), and so a check does not depend on the order of
its arguments (`Checking.check_perm`).
-/

namespace InlineChoice

namespace Issue

/-! ## The order -/

/-- The order compares the files first, and then what stands in the rank. -/
theorem order_eq_compareLex : order = compareLex (compareOn file) (compareOn rank) := rfl

instance : Std.TransCmp order := by
  rw [order_eq_compareLex]
  infer_instance

/-- Issues that are equal in the order agree in what is compared. -/
theorem order_eq_eq_iff {a b : Issue} : order a b = .eq ↔ a.file = b.file ∧ a.rank = b.rank := by
  rw [order_eq_compareLex, compareLex_eq_eq, compareOn, compareOn,
    Std.LawfulEqCmp.compare_eq_iff_eq, Std.LawfulEqCmp.compare_eq_iff_eq]

/-! ## Sorting -/

theorem eq_nil_iff_of_perm {issues issues' : List Issue} (hperm : issues.Perm issues') :
    issues = [] ↔ issues' = [] := by
  rw [← List.perm_nil, hperm.congr_left, List.perm_nil]

theorem sort_perm (issues : List Issue) : (sort issues).Perm issues :=
  List.mergeSort_perm issues _

/-- A sorted list is in order. -/
theorem pairwise_sort (issues : List Issue) :
    (sort issues).Pairwise fun a b => (order a b).isLE = true := by
  refine List.pairwise_mergeSort (fun a b c => Std.TransCmp.isLE_trans) (fun a b => ?_) issues
  rw [Bool.or_eq_true]
  cases hab : order a b with
  | lt => exact Or.inl rfl
  | eq => exact Or.inl rfl
  | gt =>
      have hba : order b a = .lt := Std.OrientedCmp.gt_iff_lt.mp hab
      rw [hba]
      exact Or.inr rfl

/-- Issues of which no two are equal in the order have only one sorted list. -/
theorem sort_eq_of_perm {issues issues' : List Issue} (hperm : issues.Perm issues')
    (hdistinct : ∀ a ∈ issues, ∀ b ∈ issues, order a b = .eq → a = b) :
    sort issues = sort issues' := by
  have hsorted : (sort issues).Perm (sort issues') :=
    (sort_perm issues).trans (hperm.trans (sort_perm issues').symm)
  refine List.Perm.eq_of_pairwise (fun a b ha hb hab hba => ?_) (pairwise_sort issues)
    (pairwise_sort issues') hsorted
  have ha : a ∈ issues := (sort_perm issues).mem_iff.mp ha
  have hb : b ∈ issues := hperm.mem_iff.mpr ((sort_perm issues').mem_iff.mp hb)
  exact hdistinct a ha b hb (Std.OrientedCmp.isLE_antisymm hab hba)

end Issue

/-- A report depends only on how often each issue occurs, if no two of them are equal in
the order. -/
theorem Report.print_perm (colours : Bool) {issues issues' : List Issue}
    (hperm : issues.Perm issues')
    (hdistinct : ∀ a ∈ issues, ∀ b ∈ issues, Issue.order a b = .eq → a = b) :
    print colours issues = print colours issues' := by
  simp only [print, render, Issue.eq_nil_iff_of_perm hperm, Issue.sort_eq_of_perm hperm hdistinct]

/-! ## Issues of one check -/

namespace Checking

/-- The status depends only on which issues are found. -/
theorem statusOf_perm {issues issues' : List Issue} (hperm : issues.Perm issues') :
    statusOf issues = statusOf issues' := by
  simp only [statusOf, Issue.eq_nil_iff_of_perm hperm, hperm.any_eq]

section General

variable [PatternEngine] {env : Environment} {request : CheckRequest} {config : Config}
  {a b : Issue}

/-- The issue of a file and the issue of a line have different ranks. -/
theorem rank_ne_of_reports {i j k : Nat} (ha : Reports env request config a (.file i))
    (hb : Reports env request config b (.line j k)) : a.rank ≠ b.rank := by
  obtain ⟨path, fault, -, -, rfl⟩ := ha
  obtain ⟨path', place, text, content, -, -, -, c, asg, front, -, -, -, -, -, rfl⟩ := hb
  simp [Issue.rank, Issue.place?]

/-- **The order tells the issues of a check apart.** Issues that are equal in the order
are equal. -/
theorem eq_of_reports {site site' : Site} (ha : Reports env request config a site)
    (hb : Reports env request config b site') (hfile : a.file = b.file)
    (hrank : a.rank = b.rank) : a = b := by
  cases site with
  | file i =>
      cases site' with
      | line j k => exact absurd hrank (rank_ne_of_reports ha hb)
      | file j =>
          obtain ⟨path, fault, -, hread, rfl⟩ := ha
          obtain ⟨path', fault', -, hread', rfl⟩ := hb
          obtain rfl : path = path' := hfile
          cases hread.symm.trans hread'
          rfl
  | line i k =>
      cases site' with
      | file j => exact absurd hrank.symm (rank_ne_of_reports hb ha)
      | line j k' =>
          obtain ⟨path, place, text, content, -, hread, hline, c, asg, front, hparse, hasg,
            -, -, hfront, rfl⟩ := ha
          obtain ⟨path', place', text', content', -, hread', hline', c', asg', front', hparse',
            hasg', -, -, hfront', rfl⟩ := hb
          obtain rfl : path = path' := hfile
          obtain ⟨rfl, -⟩ : k = k' ∧ _ := by simpa [Issue.rank, Issue.place?] using hrank
          cases hread.symm.trans hread'
          cases hline.symm.trans hline'
          cases hparse.symm.trans hparse'
          cases hasg.symm.trans hasg'
          cases hfront.symm.trans hfront'
          rfl

theorem eq_of_order_eq (ha : a ∈ findings env request) (hb : b ∈ findings env request)
    (h : Issue.order a b = .eq) : a = b := by
  cases hconfig : Config.load env.tree env.directory with
  | error fault => simp [findings, Session.start_eq, hconfig] at ha
  | ok loaded =>
      obtain ⟨config, found⟩ := loaded
      obtain ⟨site, ha⟩ := (mem_findings_iff request hconfig).mp ha
      obtain ⟨site', hb⟩ := (mem_findings_iff request hconfig).mp hb
      obtain ⟨hfile, hrank⟩ := Issue.order_eq_eq_iff.mp h
      exact eq_of_reports ha hb hfile hrank

/-! ## The order of the arguments -/

variable {files files' : List Text}

theorem findings_perm (env : Environment) (hperm : files.Perm files') (settings : Settings) :
    (findings env ⟨files, settings⟩).Perm (findings env ⟨files', settings⟩) := by
  simp only [findings]
  cases Session.start env settings with
  | error failure => exact List.Perm.refl _
  | ok s => exact hperm.flatMap_right _

/-- **A check does not depend on the order of its arguments.** With the same files in
another order it writes the same output and ends with the same status; and of the issues
that it finds, two that are equal in the order are equal. -/
theorem check_perm (env : Environment) (settings : Settings) (hperm : files.Perm files') :
    let outcome := (Command.check ⟨files, settings⟩).run env
    let outcome' := (Command.check ⟨files', settings⟩).run env
    outcome.output = outcome'.output ∧ outcome.status.code = outcome'.status.code ∧
    ∀ a ∈ findings env ⟨files, settings⟩, ∀ b ∈ findings env ⟨files, settings⟩,
      Issue.order a b = .eq → a = b := by
  intro outcome outcome'
  have hdistinct : ∀ a ∈ findings env ⟨files, settings⟩, ∀ b ∈ findings env ⟨files, settings⟩,
      Issue.order a b = .eq → a = b := fun a ha b hb => eq_of_order_eq ha hb
  cases hconfig : Config.load env.tree env.directory with
  | error fault =>
      have hfailed (paths : List Text) : (Command.check ⟨paths, settings⟩).run env =
          .failed (.config fault) [] := by
        simp only [Command.run, run, Session.start_eq, hconfig]
      have hsame : outcome = outcome' := (hfailed files).trans (hfailed files').symm
      exact ⟨congrArg (·.output) hsame, congrArg (·.status.code) hsame, hdistinct⟩
  | ok loaded =>
      obtain ⟨config, found⟩ := loaded
      obtain ⟨hstatus, houtput⟩ := run_eq ⟨files, settings⟩ hconfig
      obtain ⟨hstatus', houtput'⟩ := run_eq ⟨files', settings⟩ hconfig
      have hfindings := findings_perm env hperm settings
      have hnil := Issue.eq_nil_iff_of_perm hfindings
      refine ⟨?_, ?_, hdistinct⟩
      · have hsum : (files.map (annotatedLines env settings config)).sum =
            (files'.map (annotatedLines env settings config)).sum := (hperm.map _).sum_nat
        rw [houtput, houtput', Report.print_perm env.colours hfindings hdistinct]
        simp only [hnil, hperm.length_eq, hsum]
      · rw [hstatus, hstatus', Report.print_perm env.colours hfindings hdistinct,
          statusOf_perm hfindings]

end General

section

open scoped PatternEngine

/-- A file that is given twice and two paths that cannot be read, in two orders. -/
theorem check_perm_of_missing_file :
    let env : Environment :=
      { tree := .ofEntries [(["a".toList],
          .file (some "x = c # [CB]: a|b\ny = d # [CB]: a|b\n".toList))]
        directory := []
        colours := true }
    let files := ["a".toList, "z".toList, "a".toList, "a/b".toList]
    let files' := ["a/b".toList, "a".toList, "a".toList, "z".toList]
    files.Perm files' ∧
    ((Command.check ⟨files, ⟨none, false⟩⟩).run env).output =
      ((Command.check ⟨files', ⟨none, false⟩⟩).run env).output := by
  intro env files files'
  have hperm : files.Perm files' := by decide
  exact ⟨hperm, (check_perm env ⟨none, false⟩ hperm).1⟩

end

end Checking

end InlineChoice
