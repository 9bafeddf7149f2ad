import SourceStyle.Proofs.Additions
import SourceStyle.Proofs.FileText

/-!
# The scan of a file

The scan of a file gives one of three results: the file is good, or it has violations, or it could not
be read for a reason that is given (`FileResult.Scanned`), and the file and the extensions of the scanner
settle which one it is (`Scanner.Outcome`). There are two exceptions. A path with a NUL character is no
path at all, and if it has one of the extensions the scan fails. It fails as well on a text that the
checks refuse, which they do with settings out of range only (`scanFile_outcome_iff`).
-/

namespace SourceStyle

/-- The results that a scan of a file can have. -/
inductive FileResult.Scanned : FileResult → Prop
  | good (path : String) : Scanned { path, status := .ok }
  | bad (path : String) {vs : List Violation} (h : vs ≠ []) :
    Scanned { path, status := .violations, violations := vs }
  | unread (path : String) {reason : String} (h : reason ≠ "") :
    Scanned { path, status := .error, error := some reason }

theorem append_ne_empty {a : String} (h : a ≠ "") (b : String) : a ++ b ≠ "" :=
  fun hab => h (String.append_eq_empty_iff.1 hab).1

theorem FileTree.Error.message_ne_empty (path : String) (e : FileTree.Error) :
    e.message path ≠ "" := by
  cases e with
  | denied => exact append_ne_empty (by decide) _
  | notFound => exact append_ne_empty (by decide) _
  | notADirectory => exact append_ne_empty (by decide) _
  | isADirectory => exact append_ne_empty (by decide) _
  | nameTooLong => exact append_ne_empty (by decide) _
  | notAPath =>
    show "embedded null byte" ≠ ""
    decide

theorem Utf8.Fault.message_ne_empty (f : Utf8.Fault) : f.message ≠ "" :=
  append_ne_empty (append_ne_empty (append_ne_empty (by decide) _) _) _

namespace Scanner

/-- The result that the scan of a file should have. -/
inductive Outcome (s : Scanner) (tree : FileTree) (path : String) : FileResult → Prop
  | skipped (h : s.isEligible path = false) : Outcome s tree path { path, status := .ok }
  | good {t : Text} (h : s.isEligible path = true) (hread : tree.readText path = .ok t)
    (hscan : s.scanText t = .ok []) : Outcome s tree path { path, status := .ok }
  | bad {t : Text} {vs : List Violation} (h : s.isEligible path = true)
    (hread : tree.readText path = .ok t) (hscan : s.scanText t = .ok vs) (hvs : vs ≠ []) :
    Outcome s tree path { path, status := .violations, violations := vs }
  | unread {e : FileTree.ReadError} {reason : String} (h : s.isEligible path = true)
    (hread : tree.readText path = .error e) (hreason : reason ≠ "") :
    Outcome s tree path { path, status := .error, error := some reason }

variable {s : Scanner} {tree : FileTree} {path : String}

theorem Outcome.path_eq {r : FileResult} (h : s.Outcome tree path r) : r.path = path := by
  cases h <;> rfl

theorem Outcome.scanned {r : FileResult} (h : s.Outcome tree path r) : r.Scanned := by
  cases h with
  | skipped => exact .good path
  | good => exact .good path
  | bad _ _ _ hvs => exact .bad path hvs
  | unread _ _ hreason => exact .unread path hreason

theorem scanFile_of_unread {e : FileTree.ReadError}
    (heligible : s.isEligible path = true) (hread : tree.readText path = .error e)
    (h : '\x00' ∉ path.toList) :
    ∃ reason, reason ≠ "" ∧ s.scanFile tree path = .ok (unreadable path reason) := by
  unfold scanFile
  simp only [heligible, hread, Bool.not_true, Bool.false_eq_true, if_false]
  rcases e with e | f
  · have hmessage := e.message_ne_empty path
    cases e with
    | notAPath => exact absurd ((tree.readText_eq_notAPath_iff path).1 hread) h
    | notFound => exact ⟨_, by decide, rfl⟩
    | notADirectory => exact ⟨_, hmessage, rfl⟩
    | isADirectory => exact ⟨_, hmessage, rfl⟩
    | nameTooLong => exact ⟨_, hmessage, rfl⟩
    | denied => exact ⟨_, hmessage, rfl⟩
  · exact ⟨_, f.message_ne_empty, rfl⟩

theorem scanFile_of_not_eligible (h : s.isEligible path = false) :
    s.scanFile tree path = .ok { path, status := .ok } := by
  simp [scanFile, h]

theorem scanFile_of_nul (heligible : s.isEligible path = true) (h : '\x00' ∈ path.toList) :
    s.scanFile tree path = .error (.access path .notAPath) := by
  unfold scanFile
  simp only [heligible, (tree.readText_eq_notAPath_iff path).2 h, Bool.not_true,
    Bool.false_eq_true, if_false]

/-- The text of a file to scan is refused by the checks. -/
def Refuses (s : Scanner) (tree : FileTree) (path : String) : Prop :=
  s.isEligible path = true ∧ ∃ t, tree.readText path = .ok t ∧ s.checks.Refuses t

theorem not_refuses_of_inRange (h : s.checks.limits.InRange) (tree : FileTree) (path : String) :
    ¬s.Refuses tree path := by
  rintro ⟨-, t, -, hrefuses⟩
  exact Checks.not_refuses_of_inRange h t hrefuses

theorem scanFile_of_refuses (h : s.Refuses tree path) :
    ∃ e, s.scanFile tree path = .error (.checks (.length e)) := by
  obtain ⟨heligible, t, hread, hrefuses⟩ := h
  rcases s.scanText_cases t with ⟨-, e, he⟩ | ⟨hchecked, -⟩
  · refine ⟨e, ?_⟩
    rw [scanFile_of_readText heligible hread, resultOfText_eq_error path he]
  · exact absurd hrefuses hchecked

/-- A file is scanned with the outcome that it should have, unless its path is no path or its text is
refused. -/
theorem exists_outcome (h : s.isEligible path = false ∨ '\x00' ∉ path.toList)
    (hchecked : ¬s.Refuses tree path) :
    ∃ r, s.scanFile tree path = .ok r ∧ s.Outcome tree path r := by
  rcases heligible : s.isEligible path
  · exact ⟨_, scanFile_of_not_eligible heligible, .skipped heligible⟩
  · have hnul : '\x00' ∉ path.toList := by simpa [heligible] using h
    rcases hread : tree.readText path with e | t
    · obtain ⟨reason, hreason, hr⟩ := scanFile_of_unread heligible hread hnul
      exact ⟨_, hr, .unread heligible hread hreason⟩
    · rcases s.scanText_cases t with ⟨hrefuses, -⟩ | ⟨-, vs, hscan, -⟩
      · exact absurd ⟨heligible, t, hread, hrefuses⟩ hchecked
      refine ⟨_, (scanFile_of_readText heligible hread).trans (resultOfText_eq_ok path hscan), ?_⟩
      rcases vs with - | ⟨v, vs⟩
      · exact .good heligible hread hscan
      · exact .bad heligible hread hscan (List.cons_ne_nil v vs)

theorem exists_scanFile (h : '\x00' ∉ path.toList) (hchecked : ¬s.Refuses tree path) :
    ∃ r, s.scanFile tree path = .ok r ∧ r.path = path ∧ r.Scanned := by
  obtain ⟨r, hr, hout⟩ := exists_outcome (.inr h) hchecked
  exact ⟨r, hr, hout.path_eq, hout.scanned⟩

/-- The scan of a file has a result exactly if the file is skipped or its path has no NUL character, and
its text is not refused, which with settings in range it never is. Then the result is the one that it
should have. Otherwise the scan fails because the path is none or because the text is refused. -/
theorem scanFile_outcome_iff (s : Scanner) (tree : FileTree) (path : String) :
    ((∃ r, s.scanFile tree path = .ok r)
      ↔ (s.isEligible path = false ∨ '\x00' ∉ path.toList) ∧ ¬s.Refuses tree path)
    ∧ (s.checks.limits.InRange → ¬s.Refuses tree path)
    ∧ (∀ r, s.scanFile tree path = .ok r → s.Outcome tree path r)
    ∧ ∀ e, s.scanFile tree path = .error e →
      '\x00' ∈ path.toList ∧ e = .access path .notAPath
        ∨ s.Refuses tree path ∧ ∃ reason, e = .checks (.length reason) := by
  refine and_left_comm.1 ⟨fun hrange => not_refuses_of_inRange hrange tree path, ?_⟩
  by_cases hrefuses : s.Refuses tree path
  · obtain ⟨reason, hfails⟩ := scanFile_of_refuses hrefuses
    simp [hfails, hrefuses]
  by_cases h : s.isEligible path = false ∨ '\x00' ∉ path.toList
  · obtain ⟨r, hr, hout⟩ := exists_outcome h hrefuses
    refine ⟨⟨fun _ => ⟨h, hrefuses⟩, fun _ => ⟨r, hr⟩⟩, fun r' hr' => ?_, fun e he => ?_⟩
    · rw [hr] at hr'
      cases hr'
      exact hout
    · rw [hr] at he
      cases he
  · obtain ⟨heligible, hnul⟩ : s.isEligible path = true ∧ '\x00' ∈ path.toList := by
      rwa [not_or, Bool.not_eq_false, Decidable.not_not] at h
    simp [scanFile_of_nul heligible hnul, heligible, hnul]

theorem scanFile_nul_path_fails :
    let path := "a\x00.c"
    Scanner.standard.isEligible path = true
      ∧ Scanner.standard.scanFile {} path = .error (.access path .notAPath)
      ∧ ¬∃ r, Scanner.standard.scanFile {} path = .ok r ∧ Scanner.standard.Outcome {} path r := by
  intro path
  have heligible : Scanner.standard.isEligible path = true := by decide
  have hfails : Scanner.standard.scanFile {} path = .error (.access path .notAPath) :=
    scanFile_of_nul heligible (by decide)
  refine ⟨heligible, hfails, ?_⟩
  rintro ⟨r, hr, -⟩
  rw [hfails] at hr
  cases hr

end Scanner

end SourceStyle
