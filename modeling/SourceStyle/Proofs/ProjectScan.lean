import SourceStyle.Proofs.DirectoryScan
import SourceStyle.Service

/-!
# The project that a service holds

The scan of a project is meant to replace the project and its path together, or else to leave both.
It fails only where there is no path or one whose scan fails, and then the project is left, but the
path has become the current one already (`scanProject_cases`). So the scan is all or
nothing exactly if it succeeds or its path was the current one (`scanProject_all_or_nothing_iff`).
-/

namespace SourceStyle

namespace Service

variable {s : Service} {tree : FileTree} {d : String}

def ProjectScan.Failed : ProjectScan → Prop
  | failed _ => True
  | done .. => False

/-- A scan of a project either fails and leaves the service as it was, or makes its path the current
one and holds the project of the results of this scan alone. -/
inductive AllOrNothing (s : Service) (tree : FileTree) (path : Option String) :
    ProjectScan × Service → Prop where
  | nothing (message : String) : AllOrNothing s tree path (.failed message, s)
  | all {d : String} {results : Option (List FileResult)} {project : Project} (hpath : path = some d)
      (hresults : s.scanner.scanDirectory tree d true = .ok results)
      (hproject : ({} : Project).addAll tree (results.getD []) = (project, .ok ())) :
      AllOrNothing s tree path
        (.done d (project.report false) project.statistics, { s with current := path, project })

theorem scanProject_of_error {e : Scanner.Error}
    (h : s.scanner.scanDirectory tree d true = .error e) :
    s.scanProject tree (some d) = (.failed e.message, { s with current := some d }) := by
  unfold scanProject
  simp only [h]

/-- The paths of a scan can be read, so the project of its results is complete. -/
theorem addAll_of_scanDirectory {results : Option (List FileResult)} (htree : tree.WellFormed)
    (h : s.scanner.scanDirectory tree d true = .ok results) :
    ∃ project, ({} : Project).addAll tree (results.getD []) = (project, .ok ()) := by
  refine ⟨_, Project.addAll_of_noNul fun r hr => ?_⟩
  rcases results with - | results
  · simp at hr
  · obtain ⟨_, _, _, _, hall⟩ := Scanner.forall₂_of_scanDirectory htree h
    obtain ⟨_, _, hr⟩ := exists_left_of_mem hall hr
    exact hr.noNul

theorem scanProject_of_ok {results : Option (List FileResult)} {project : Project}
    (h : s.scanner.scanDirectory tree d true = .ok results)
    (hproject : ({} : Project).addAll tree (results.getD []) = (project, .ok ())) :
    s.scanProject tree (some d) = (.done d (project.report false) project.statistics,
      { s with current := some d, project }) := by
  unfold scanProject
  simp only [h, hproject]

/-- All that the scan of a project can do. -/
theorem scanProject_cases (s : Service) (path : Option String) (htree : tree.WellFormed) :
    ((∀ d, path = some d → s.scanner.Fails tree d true)
      ∧ ∃ message, s.scanProject tree path = (.failed message, { s with current := path }))
    ∨ ∃ d results project, path = some d ∧ ¬s.scanner.Fails tree d true
      ∧ s.scanner.scanDirectory tree d true = .ok results
      ∧ ({} : Project).addAll tree (results.getD []) = (project, .ok ())
      ∧ s.scanProject tree path = (.done d (project.report false) project.statistics,
        { s with current := path, project }) := by
  rcases path with - | d
  · left
    refine ⟨fun d hd => ?_, _, rfl⟩
    cases hd
  · have hfails : (∃ e, s.scanner.scanDirectory tree d true = .error e)
        ↔ s.scanner.Fails tree d true := Scanner.scanDirectory_eq_error_iff htree
    rcases hscan : s.scanner.scanDirectory tree d true with e | results
    · left
      refine ⟨fun d' hd' => ?_, _, scanProject_of_error hscan⟩
      obtain rfl := Option.some.inj hd'
      exact hfails.1 ⟨e, hscan⟩
    · right
      have hgood : ¬s.scanner.Fails tree d true := by
        rw [← hfails, hscan]
        simp
      obtain ⟨project, hproject⟩ := addAll_of_scanDirectory htree hscan
      exact ⟨d, results, project, rfl, hgood, hscan, hproject, scanProject_of_ok hscan hproject⟩

/-- A scan of a project that succeeds replaces the project and the path. One that fails leaves the
project and replaces the path all the same. With settings in range it fails only where a path cannot be
looked up. -/
theorem scanProject_all_or_nothing_iff (s : Service) (tree : FileTree) (path : Option String)
    (htree : tree.WellFormed) :
    (s.AllOrNothing tree path (s.scanProject tree path)
      ↔ ¬(s.scanProject tree path).1.Failed ∨ s.current = path)
    ∧ ((s.scanProject tree path).1.Failed → (s.scanProject tree path).2 = { s with current := path })
    ∧ ((s.scanProject tree path).1.Failed ↔ ∀ d, path = some d → s.scanner.Fails tree d true)
    ∧ (s.scanner.checks.limits.InRange →
      ∀ d, s.scanner.Fails tree d true ↔ tree.Blocked d true) := by
  have hrange : s.scanner.checks.limits.InRange →
      ∀ d, s.scanner.Fails tree d true ↔ tree.Blocked d true :=
    fun h _ => Scanner.fails_iff_of_inRange h
  rcases scanProject_cases s path htree with
    ⟨hfails, message, hscan⟩ | ⟨d, results, project, rfl, hgood, hresults, hproject, hscan⟩
  · rw [hscan]
    refine ⟨⟨fun h => .inr ?_, fun h => ?_⟩, fun _ => rfl,
      ⟨fun _ => hfails, fun _ => trivial⟩, hrange⟩
    · -- the service that is left has the new path, so it is the old one only if that was the same
      generalize hafter : ({ s with current := path } : Service) = s' at h
      cases h
      exact (congrArg current hafter).symm
    · have hcurrent : s.current = path := h.resolve_left (not_not_intro trivial)
      subst hcurrent
      exact .nothing message
  · rw [hscan]
    refine ⟨⟨fun _ => .inl id, fun _ => .all rfl hresults hproject⟩, fun h => h.elim,
      ⟨fun h => h.elim, fun h => hgood (h d rfl)⟩, hrange⟩

theorem scanProject_all_of_other_project :
    let tree := ({} : FileTree).addFile [['a'], ['x', '.', 'c']] []
    let s : Service := { current := some "b" }
    tree.WellFormed ∧ ¬(s.scanProject tree (some "a")).1.Failed
      ∧ s.AllOrNothing tree (some "a") (s.scanProject tree (some "a")) := by
  intro tree s
  have htree : tree.WellFormed := by decide
  have hopen : ¬tree.Blocked "a" true := by
    have hd : tree.directory? (Path.ofString "a").toString = .ok (some [['a']]) := by decide
    have hnames : ¬tree.Overlong (Path.ofString "a") [['a']] true := by decide
    simpa [FileTree.Blocked, hd] using hnames
  obtain ⟨hiff, -, hfails, hrange⟩ := scanProject_all_or_nothing_iff s tree (some "a") htree
  have hdone : ¬(s.scanProject tree (some "a")).1.Failed :=
    fun h => hopen ((hrange .default "a").1 (hfails.1 h "a" rfl))
  exact ⟨htree, hdone, hiff.2 (.inl hdone)⟩

/-- A name of 256 bytes cannot be looked up. Its scan fails and leaves the project of the path `a`,
which was scanned before, but `a` is no longer the current path. -/
theorem failed_scan_replaces_path :
    let s := (({} : Service).scanProject {} (some "a")).2
    let d := (⟨[], [List.replicate 256 'n']⟩ : Path).toString
    s.current = some "a" ∧ (s.scanProject {} (some d)).1.Failed
      ∧ (s.scanProject {} (some d)).2 = { s with current := some d } ∧ some d ≠ some "a" := by
  intro s d
  have hnormal : (⟨[], [List.replicate 256 'n']⟩ : Path).Normal :=
    ⟨.inl rfl, fun n hn => by
      obtain rfl := List.mem_singleton.1 hn
      decide +kernel⟩
  have hof : Path.ofString d = ⟨[], [List.replicate 256 'n']⟩ := Path.ofString_toString hnormal
  have hempty : ({} : FileTree).WellFormed := by decide
  have hresolve : ({} : FileTree).resolve d = .error .nameTooLong := by
    rw [FileTree.resolve_toString hempty hnormal (by decide +kernel)]
    decide +kernel
  have hfails : s.scanner.Fails {} d true := by
    refine .inl (.inl ⟨.nameTooLong, FileTree.directory?_eq_error_iff.2 ⟨?_, rfl⟩⟩)
    rw [hof]
    exact hresolve
  have hother : some d ≠ some "a" := by
    intro h
    rw [Option.some.inj h] at hof
    revert hof
    decide
  rcases scanProject_cases s (some d) hempty with
    ⟨-, message, hscan⟩ | ⟨d', -, -, hd', hgood, -⟩
  · rw [hscan]
    exact ⟨rfl, trivial, rfl, hother⟩
  · rw [← Option.some.inj hd'] at hgood
    exact absurd hfails hgood

end Service

end SourceStyle
