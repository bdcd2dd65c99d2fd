import InlineChoice.Proofs.DisplayWidth
import InlineChoice.Report
import Mathlib.Data.List.TakeWhile

/-!
# What is written of a report

No padding is wider than 65535 columns, and the carets of an issue are padded by the columns
in front of its place. So an issue can be out of reach (`Issue.OutOfReach`): then the report
breaks off in front of its carets.

A report with all issues in reach is written as a whole (`Report.print_eq_render`), and any
other one is a proper beginning of the whole report (`Report.exists_rest_of_outOfReach`).
A check that finds nothing writes one line instead (`Report.success_eq`).
-/

namespace InlineChoice

/-! ## Paint -/

namespace Terminal

@[simp] theorem paint_false (style : Style) (t : Text) : paint false style t = t := rfl

/-- A text without escape sequences is not interrupted. -/
theorem restart_of_notMem {start t : Text} (h : '\x1b' ∉ t) : restart start 0 t = t := by
  induction t with
  | nil => rfl
  | cons c t ih =>
      obtain ⟨hhead, htail⟩ := not_or.mp fun hmem => h (List.mem_cons.mpr hmem)
      have hreset : reset.isPrefixOf (c :: t) = false := by
        show ('\x1b' == c && _) = false
        rw [beq_eq_false_iff_ne.mpr hhead, Bool.false_and]
      rw [restart, hreset, if_neg Bool.false_ne_true, ih htail]

/-- A colour stands around a text without escape sequences, and nowhere in it. -/
theorem paint_coloured (colour : Colour) {t : Text} (h : '\x1b' ∉ t) :
    paint true (.coloured colour) t = escape [colour.code] ++ t ++ reset := by
  have hcodes : (Style.coloured colour).codes = [colour.code] := rfl
  rw [paint, if_pos (by rw [hcodes]; rfl), restart_of_notMem h, hcodes]

end Terminal

/-! ## Issues out of reach -/

/-- More columns stand in front of the place of an issue than a padding can have. -/
def Issue.OutOfReach (issue : Issue) : Prop :=
  ∃ place, issue.place? = some place ∧
    65535 < Unicode.displayWidth (place.source.take (place.column - 1))

/-- Nothing is out of reach in lines of an ordinary length. -/
theorem Issue.not_outOfReach {issue : Issue}
    (h : ∀ place ∈ issue.place?, place.source.length ≤ 4369) : ¬ issue.OutOfReach := by
  rintro ⟨place, hplace, hfar⟩
  have hsource := h place hplace
  have hlength : (place.source.take (place.column - 1)).length ≤ 4369 :=
    Nat.le_trans (List.length_take_le' _ _) hsource
  have hcolumns := Unicode.displayWidth_le (place.source.take (place.column - 1))
  omega

namespace Report

/-- Exactly the issues in reach fit. -/
theorem fits_eq_true_iff {issue : Issue} : fits issue = true ↔ ¬ issue.OutOfReach := by
  rw [fits, Issue.OutOfReach]
  cases issue.place? with
  | none => simp
  | some place =>
      rw [Option.all_some, decide_eq_true_eq]
      constructor
      · rintro hle ⟨_, ⟨rfl⟩, hfar⟩
        exact absurd hle (Nat.not_le.mpr hfar)
      · intro hnear
        exact Nat.not_lt.mp fun hfar => hnear ⟨place, rfl, hfar⟩

variable {issues : List Issue}

/-- All issues of a report fit if and only if they are in reach; their order does not matter. -/
theorem dropWhile_sort_eq_nil_iff :
    (Issue.sort issues).dropWhile fits = [] ↔ ∀ issue ∈ issues, ¬ issue.OutOfReach := by
  have hmem {issue : Issue} : issue ∈ Issue.sort issues ↔ issue ∈ issues :=
    (List.mergeSort_perm issues _).mem_iff
  simp only [List.dropWhile_eq_nil_iff, fits_eq_true_iff, hmem]

/-- A report with all issues in reach is written as a whole. -/
theorem print_eq_render (colours : Bool) (h : ∀ issue ∈ issues, ¬ issue.OutOfReach) :
    print colours issues = ⟨render colours issues, true⟩ := by
  simp only [print, dropWhile_sort_eq_nil_iff.mpr h]

/-- The beginning of an entry is followed by the rest of it, which is not empty. -/
theorem exists_entry_eq (colours : Bool) (gutter : Nat) (issue : Issue) :
    ∃ rest, rest ≠ [] ∧ entry colours gutter issue = opening colours gutter issue ++ rest := by
  refine ⟨issue.place?.elim [] (caretLine colours gutter issue) ++ line [], ?_, ?_⟩
  · exact List.append_ne_nil_of_right_ne_nil _ (List.cons_ne_nil _ _)
  · rw [entry, List.append_assoc]

/-- A report with an issue out of reach is not written as a whole, but its beginning is. -/
theorem exists_rest_of_outOfReach (colours : Bool) (h : ∃ issue ∈ issues, issue.OutOfReach) :
    (print colours issues).isComplete = false ∧
      ∃ rest, rest ≠ [] ∧ render colours issues = (print colours issues).text ++ rest := by
  have hne : issues ≠ [] := by
    obtain ⟨issue, hissue, -⟩ := h
    exact List.ne_nil_of_mem hissue
  have hdrop : (Issue.sort issues).dropWhile fits ≠ [] := by
    intro hnil
    obtain ⟨issue, hissue, hfar⟩ := h
    exact dropWhile_sort_eq_nil_iff.mp hnil issue hissue hfar
  obtain ⟨first, later, hcut⟩ := List.exists_cons_of_ne_nil hdrop
  have hsorted : Issue.sort issues = (Issue.sort issues).takeWhile fits ++ first :: later := by
    rw [← hcut, List.takeWhile_append_dropWhile]
  generalize hgutter : gutterWidth (Issue.sort issues) = gutter
  obtain ⟨rest, hrest, hentry⟩ := exists_entry_eq colours gutter first
  have hprint : print colours issues =
      ⟨((Issue.sort issues).takeWhile fits).flatMap (entry colours gutter) ++
        opening colours gutter first, false⟩ := by
    simp only [print, hcut, hgutter]
  have hrender : render colours issues =
      (Issue.sort issues).flatMap (entry colours gutter) ++
        summary colours (Issue.sort issues) := by
    simp only [render, if_neg hne, hgutter]
  generalize (Issue.sort issues).takeWhile fits = before at hsorted hprint
  have hentries : (Issue.sort issues).flatMap (entry colours gutter) =
      before.flatMap (entry colours gutter) ++ (opening colours gutter first ++
        (rest ++ later.flatMap (entry colours gutter))) := by
    rw [hsorted, List.flatMap_append, List.flatMap_cons, hentry, List.append_assoc]
  refine ⟨by rw [hprint], rest ++ later.flatMap (entry colours gutter) ++
    summary colours (Issue.sort issues), by simp [hrest], ?_⟩
  rw [hrender, hprint, hentries]
  simp only [List.append_assoc]

/-! ## Checks that find nothing -/

/-- The numbers of files and annotations that a check has looked at, in words. -/
def tally (files annotations : Nat) : Text :=
  "Checked ".toList ++ Nat.toDigits 10 files ++ " ".toList
    ++ (if files = 1 then "file".toList else "files".toList)
    ++ ", ".toList ++ Nat.toDigits 10 annotations ++ " ".toList
    ++ (if annotations = 1 then "annotation".toList else "annotations".toList)
    ++ " - no issues found".toList

/-- The line that says that nothing was found, in green where the terminal shows colours. -/
def nothingFound (colours : Bool) (files annotations : Nat) : Text :=
  if colours then
    "\x1b[32m✓\x1b[0m ".toList
      ++ ("\x1b[32m".toList ++ tally files annotations ++ "\x1b[0m".toList) ++ "\n".toList
  else "✓ ".toList ++ tally files annotations ++ "\n".toList

theorem escape_notMem_tally (files annotations : Nat) : '\x1b' ∉ tally files annotations := by
  have hnumber (n : Nat) : '\x1b' ∉ Nat.toDigits 10 n := by
    intro hmem
    have hdigit := Nat.isDigit_of_mem_toDigits (by decide) (by decide) hmem
    exact absurd hdigit (by decide)
  have hcounted (front one many : Text) (hfront : '\x1b' ∉ front) (count : Nat)
      (hone : '\x1b' ∉ one) (hmany : '\x1b' ∉ many) :
      '\x1b' ∉ front ++ Nat.toDigits 10 count ++ " ".toList ++ if count = 1 then one else many := by
    have hword : '\x1b' ∉ if count = 1 then one else many := by
      split
      · exact hone
      · exact hmany
    exact List.not_mem_append
      (List.not_mem_append (List.not_mem_append hfront (hnumber count)) (by decide)) hword
  have hfiles := hcounted "Checked ".toList "file".toList "files".toList (by decide) files
    (by decide) (by decide)
  have hannotations := hcounted _ "annotation".toList "annotations".toList
    (List.not_mem_append hfiles (t := ", ".toList) (by decide)) annotations (by decide) (by decide)
  exact List.not_mem_append hannotations (by decide)

/-- A check that finds nothing says how many files it read, and how many annotations. -/
theorem success_eq (colours : Bool) (files annotations : Nat) :
    success colours files annotations = nothingFound colours files annotations := by
  have hsuccess : success colours files annotations =
      line (Terminal.paint colours (.coloured .green) successMark ++ [' ']
        ++ Terminal.paint colours (.coloured .green) (tally files annotations)) := rfl
  rw [hsuccess, nothingFound]
  cases colours with
  | false => rfl
  | true =>
      rw [Terminal.paint_coloured .green (escape_notMem_tally files annotations),
        Terminal.paint_coloured .green (by decide), if_pos rfl]
      rfl

end Report

end InlineChoice
