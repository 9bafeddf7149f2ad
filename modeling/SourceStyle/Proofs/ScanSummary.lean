import SourceStyle.Proofs.DirectoryScan
import SourceStyle.Proofs.Summary

/-!
# The summary of a scan and that of its project

A session counts the results of its last scan by their status. A project counts its files by their
grade, one file for each path. The results of one scan have paths of their own, and each of them is
good, or has violations, or has a reason why the file could not be read (`Session.scanPath_cases`).
So the project of a scan has one file for each result, and the two summaries agree
(`Session.summary_agrees_with_project`).
-/

namespace SourceStyle

/-! ## The results of one scan -/

/-- What all results of one scan have in common. -/
structure FileResult.Listed (results : List FileResult) : Prop where
  scanned : ∀ r ∈ results, r.Scanned
  noNul : ∀ r ∈ results, '\x00' ∉ r.path.toList
  distinct : (results.map FileResult.path).Nodup

namespace FileResult

variable {results : List FileResult} {tree : FileTree}

theorem listed_of_forall₂ {s : Scanner} {p : Path} {place : List Text} {recursive : Bool}
    (htree : tree.WellFormed)
    (h : List.Forall₂ (s.ResultAt tree p) (s.wanted tree place recursive) results) :
    Listed results := by
  refine ⟨fun r hr => ?_, fun r hr => ?_, ?_⟩
  · obtain ⟨names, -, hat⟩ := exists_left_of_mem h hr
    exact hat.scanned
  · obtain ⟨names, -, hat⟩ := exists_left_of_mem h hr
    exact hat.noNul
  · -- the names rise strictly, so no path comes twice
    refine List.pairwise_map.2 ((Scanner.covers_of_forall₂ htree h).rising.imp fun hlt heq => ?_)
    rw [heq] at hlt
    exact List.lt_irrefl _ hlt

theorem listed_singleton {r : FileResult} (h : r.Scanned) (hnul : '\x00' ∉ r.path.toList) :
    Listed [r] :=
  ⟨by simpa using h, by simpa using hnul, by simp⟩

/-- The project of a scan has the additions of its results as they are. -/
theorem Listed.values_standing (tree : FileTree) (h : Listed results) :
    (Project.standing (Project.additions tree results)).values = Project.additions tree results := by
  refine Project.values_standing_of_nodup ?_
  rw [Project.additions, List.map_map]
  exact h.distinct

theorem Listed.files (tree : FileTree) (h : Listed results) :
    (Project.ofStanding (Project.standing (Project.additions tree results))).files
      = results.map fun r => .ofResult r (⟨tree, r, none⟩ : Project.Addition).lines := by
  rw [Project.files_ofStanding, h.values_standing, Project.additions, List.map_map]
  rfl

theorem Scanned.status_eq_ok_iff {r : FileResult} (h : r.Scanned) :
    r.status = .ok ↔ Grade.ofResult r = .ok := by
  rw [(Grade.ofResult_iff r).2.1]
  cases h with
  | good path => simp [Status.ok]
  | bad path hvs => simp [hvs, Status.violations, Status.ok]
  | unread path hreason => simp [Status.error, Status.ok]

end FileResult

namespace Session

/-- The scan of a path fails, with settings in range only where a path cannot be looked up, or it has
results and stores them. -/
theorem scanPath_cases (s : Session) {tree : FileTree} {path : String} (htree : tree.WellFormed)
    (hnul : '\x00' ∉ path.toList) (recursive : Bool) :
    ((s.scanner.checks.limits.InRange → tree.Blocked path recursive)
      ∧ ∃ e, s.scanPath tree path recursive = .error e)
    ∨ ¬tree.Blocked path recursive ∧ ∃ results,
      s.scanPath tree path recursive = .ok (results, { s with results })
        ∧ FileResult.Listed results := by
  have hfails : (∃ e, s.scanner.scanDirectory tree path recursive = .error e)
      ↔ s.scanner.Fails tree path recursive :=
    Scanner.scanDirectory_eq_error_iff htree
  have hopen : ∀ {found}, s.scanner.scanDirectory tree path recursive = .ok found →
      ¬tree.Blocked path recursive := by
    intro found hfound hblocked
    obtain ⟨e, he⟩ := hfails.2 (.inl hblocked)
    rw [hfound] at he
    cases he
  unfold scanPath
  rcases hscan : s.scanner.scanDirectory tree path recursive with e | - | results
  · left
    exact ⟨fun hrange => (Scanner.fails_iff_of_inRange hrange).1 (hfails.1 ⟨e, hscan⟩), e, rfl⟩
  · -- the path is no directory, so it is scanned as a file
    by_cases hrefuses : s.scanner.Refuses tree path
    · left
      obtain ⟨e, he⟩ := Scanner.scanFile_of_refuses hrefuses
      refine ⟨fun hrange => absurd hrefuses (Scanner.not_refuses_of_inRange hrange tree path),
        .checks (.length e), ?_⟩
      simp only [he]
      rfl
    · right
      obtain ⟨r, hr, rfl, hscanned⟩ := Scanner.exists_scanFile hnul hrefuses
      refine ⟨hopen hscan, [r], ?_, FileResult.listed_singleton hscanned hnul⟩
      simp only [hr]
      rfl
  · right
    obtain ⟨place, -, -, -, hall⟩ := Scanner.forall₂_of_scanDirectory htree hscan
    exact ⟨hopen hscan, results, rfl, FileResult.listed_of_forall₂ htree hall⟩

/-! ## The two summaries -/

/-- The summary of a scan says the same as that of a project. -/
structure Summary.Agrees (a : Session.Summary) (b : SourceStyle.Summary) : Prop where
  totalFiles : a.totalFiles = b.totalFiles
  okFiles : a.okFiles = b.okFiles
  failedFiles : a.failedFiles = b.minorFiles + b.majorFiles + b.errorFiles
  totalViolations : a.totalViolations = b.totalViolations
  rules : a.rules = b.rules
  successRate : a.successRate = b.successRate

theorem summary?_eq_none_iff {s : Session} : s.summary? = none ↔ s.results = [] := by
  unfold summary?
  split_ifs with h <;> simpa using h

/-- The two summaries agree whatever the lines of the files are. -/
theorem agrees_of_files {s : Session} {a : Session.Summary} {p : Project} (lines : FileResult → Nat)
    (hfiles : p.files = s.results.map fun r => FileEntry.ofResult r (lines r))
    (hscanned : ∀ r ∈ s.results, r.Scanned) (h : s.summary? = some a) : a.Agrees p.summary := by
  obtain ⟨htotal, hok, hminor, hmajor, herror, hviolations, hrules, -⟩ := Project.summary_counts p
  have hlength : p.files.length = s.results.length := by
    rw [hfiles, List.length_map]
  have hgood : p.gradeCount .ok = s.results.countP (·.status = .ok) := by
    rw [Project.gradeCount, hfiles, List.countP_map]
    refine List.countP_congr fun r hr => ?_
    simpa [FileEntry.ofResult] using (hscanned r hr).status_eq_ok_iff.symm
  have hsum := p.sum_gradeCount
  unfold summary? at h
  split_ifs at h with hempty
  have hne : p.files ≠ [] := by
    simpa [hfiles] using hempty
  cases h
  refine ⟨?_, ?_, ?_, ?_, ?_, ?_⟩
  · rw [htotal, hlength]
  · rw [hok, hgood]
  · rw [hminor, hmajor, herror]
    show s.results.length - s.results.countP (·.status = .ok) = _
    omega
  · rw [hviolations, hfiles, sumBy_map]
    rfl
  · rw [hrules, Project.ruleDistribution, hfiles, List.map_map]
    rfl
  · rw [Project.successRate_summary hne, hgood, hlength]

/-- After the scan of a path, its summary agrees with that of a project that its results are added
to, wherever the lines of the files are counted. -/
theorem summary_agrees_with_project (s s' : Session) (tree later : FileTree) (path : String)
    (recursive : Bool) (results : List FileResult) (htree : tree.WellFormed)
    (hnul : '\x00' ∉ path.toList) (h : s.scanPath tree path recursive = .ok (results, s')) :
    ∃ p, ({} : Project).addAll later results = (p, .ok ())
      ∧ (s'.summary? = none ↔ results = [])
      ∧ ∀ a, s'.summary? = some a → a.Agrees p.summary := by
  rcases s.scanPath_cases htree hnul recursive with ⟨-, e, herror⟩ | ⟨-, found, hok, hlisted⟩
  · rw [herror] at h
    cases h
  · rw [hok] at h
    cases h
    exact ⟨_, Project.addAll_of_noNul hlisted.noNul, summary?_eq_none_iff, fun a ha =>
      agrees_of_files _ (hlisted.files later) hlisted.scanned ha⟩

theorem summary_agrees_of_good_bad_unread :
    let tree := ((({} : FileTree).addFile [['x', '.', 'c']] []).addFile [['y', '.', 'c']]
      [0x0a]).addFile [['z', '.', 'c']] [0xff]
    let s : Session := { scanner := .standard }
    tree.WellFormed ∧ ∃ results s' p a, s.scanPath tree "." true = .ok (results, s')
      ∧ ({} : Project).addAll {} results = (p, .ok ())
      ∧ s'.summary? = some a ∧ a.Agrees p.summary
      ∧ p.summary.okFiles = 1
      ∧ p.summary.minorFiles + p.summary.majorFiles + p.summary.errorFiles = 2 := by
  intro tree s
  have htree : tree.WellFormed := by decide
  have hd : tree.directory? (Path.ofString ".").toString = .ok (some []) := by decide
  have hsorted : (tree.namesBelow [] true).mergeSort Path.namesLE = tree.namesBelow [] true :=
    List.mergeSort_of_pairwise (by decide)
  have hfiles : Scanner.standard.filesToScan tree (Path.ofString ".") [] true
      = .ok [Path.ofString "x.c", Path.ofString "y.c", Path.ofString "z.c"] := by
    rw [Scanner.filesToScan, hsorted]
    rfl
  obtain ⟨results, s', a, hscan, ha, hok, hfailed⟩ : ∃ results s' a,
      s.scanPath tree "." true = .ok (results, s') ∧ s'.summary? = some a
        ∧ a.okFiles = 1 ∧ a.failedFiles = 2 := by
    unfold scanPath Scanner.scanDirectory
    simp only [s, hd, hfiles]
    exact ⟨_, _, _, rfl, rfl, rfl, rfl⟩
  obtain ⟨p, hp, -, hagrees⟩ :=
    summary_agrees_with_project s s' tree {} "." true results htree (by decide) hscan
  have hall := hagrees a ha
  exact ⟨htree, results, s', p, a, hscan, hp, ha, hall, hall.okFiles.symm.trans hok,
    hall.failedFiles.symm.trans hfailed⟩

end Session

end SourceStyle
