import SourceStyle.Command.Run
import SourceStyle.Proofs.ScanSummary

/-!
# The check of paths agrees with their reports

The check of a path prints from the results of a scan alone. A report goes through a project, which
keeps one result for each path and a grade for each. The two agree because the results of a scan
have paths of their own and each of them is good, or has violations, or has a reason why the file
could not be read (`FileResult.Listed`, `agrees_of_listed`). So the check prints the violations of
the reports, path by path, and succeeds exactly if all files of all projects are good
(`check_agrees_with_reports`).
-/

namespace SourceStyle

/-- The lines for the violations that a report lists: the path, the line and the column counted from
one, the severity, the message and the rule. -/
def Report.violationLines (r : Report) : List String :=
  r.files.flatMap fun x => (x.2.getD []).map fun v =>
    s!"{x.1.path}:{v.span.start.line + 1}:{v.span.start.column + 1}: " ++
      s!"{v.severity.name}: {v.message} [{v.rule}]"

namespace Command

/-! ## One result -/

theorem violationLines_eq (r : FileResult) : violationLines r = r.violations.map fun v =>
    s!"{r.path}:{v.span.start.line + 1}:{v.span.start.column + 1}: " ++
      s!"{v.severity.name}: {v.message} [{v.rule}]" := by
  refine List.map_congr_left fun v _ => ?_
  simp only [Violation.describe, String.append_assoc]
  rfl

theorem length_errorLines {r : FileResult} (h : r.Scanned) :
    (errorLines r).length = if Grade.ofResult r = .error then 1 else 0 := by
  cases h with
  | good path => rfl
  | bad path hvs =>
    rw [if_neg]
    · rfl
    · rw [(Grade.ofResult_iff _).1]
      show ¬Status.violations.label = "Error"
      decide
  | unread path hreason =>
    rw [if_pos ((Grade.ofResult_iff _).1.2 rfl)]
    simp [errorLines, hreason]

/-- A good file is one for which nothing is printed. -/
theorem ofResult_eq_ok_iff {r : FileResult} (h : r.Scanned) :
    Grade.ofResult r = .ok ↔ violationLines r = [] ∧ errorLines r = [] := by
  have hlines : errorLines r = [] ↔ r.status.label ≠ "Error" := by
    rw [← List.length_eq_zero_iff, length_errorLines h, ne_eq, ← (Grade.ofResult_iff r).1]
    split_ifs with hgrade <;> simp [hgrade]
  rw [(Grade.ofResult_iff r).2.1, hlines, violationLines, List.map_eq_nil_iff, and_comm]

/-! ## The results of one path -/

/-- A project counts and lists what is printed for results. -/
structure Agrees (p : Project) (results : List FileResult) : Prop where
  lines : (p.report true).violationLines = results.flatMap violationLines
  violations : p.summary.totalViolations = (results.flatMap violationLines).length
  errors : p.summary.errorFiles = (results.flatMap errorLines).length
  ok : p.summary.okFiles = p.summary.totalFiles
    ↔ results.flatMap violationLines = [] ∧ results.flatMap errorLines = []

section Listed

variable {results : List FileResult}

theorem length_flatMap_errorLines (h : ∀ r ∈ results, r.Scanned) :
    (results.flatMap errorLines).length = results.countP (Grade.ofResult · = .error) := by
  induction results with
  | nil => rfl
  | cons r results ih =>
    rw [List.forall_mem_cons] at h
    rw [List.flatMap_cons, List.length_append, length_errorLines h.1, ih h.2, List.countP_cons,
      Nat.add_comm]
    simp

theorem length_flatMap_violationLines : ∀ results : List FileResult,
    (results.flatMap violationLines).length = sumBy (fun r => r.violations.length) results
  | [] => rfl
  | r :: results => by
    rw [List.flatMap_cons, List.length_append, length_flatMap_violationLines results, sumBy,
      violationLines, List.length_map]

theorem agrees_of_listed (tree : FileTree) (h : FileResult.Listed results) :
    Agrees (Project.ofStanding (Project.standing (Project.additions tree results))) results := by
  have hvalues := h.values_standing tree
  have hfiles := h.files tree
  obtain ⟨htotal, hok, -, -, herror, hviolations, -⟩ :=
    Project.summary_counts (Project.ofStanding (Project.standing (Project.additions tree results)))
  refine ⟨?_, ?_, ?_, ?_⟩
  · rw [Report.violationLines, Project.report_ofStanding, hvalues, Project.additions, List.map_map,
      List.flatMap_map, funext violationLines_eq]
    rfl
  · rw [hviolations, hfiles, sumBy_map, length_flatMap_violationLines]
    rfl
  · rw [herror, Project.gradeCount, hfiles, List.countP_map, length_flatMap_errorLines h.scanned]
    rfl
  · rw [hok, htotal, Project.gradeCount, hfiles, List.countP_map, List.length_map,
      List.countP_eq_length, List.flatMap_eq_nil_iff, List.flatMap_eq_nil_iff]
    have hgood : ∀ r ∈ results, Grade.ofResult r = .ok ↔ violationLines r = [] ∧ errorLines r = [] :=
      fun r hr => ofResult_eq_ok_iff (h.scanned r hr)
    refine ⟨fun hall => ⟨fun r hr => ?_, fun r hr => ?_⟩, fun hnone r hr => ?_⟩
    · exact ((hgood r hr).1 (of_decide_eq_true (hall r hr))).1
    · exact ((hgood r hr).1 (of_decide_eq_true (hall r hr))).2
    · exact decide_eq_true ((hgood r hr).2 ⟨hnone.1 r hr, hnone.2 r hr⟩)

end Listed

/-! ## The scan of one path -/

section Scan

variable {env : Surroundings} {path : String}

/-- The scan of a path fails if a path cannot be looked up, and else has results. -/
theorem scanPath_cases (htree : env.tree.WellFormed) (hnul : '\x00' ∉ path.toList) (recursive : Bool)
    (extensions : List Text) :
    (env.tree.Blocked path recursive
      ∧ ∃ e, scanPath env.tree path recursive extensions = .error e)
    ∨ ¬env.tree.Blocked path recursive
      ∧ ∃ results, scanPath env.tree path recursive extensions = .ok results
        ∧ FileResult.Listed results := by
  unfold scanPath
  rcases Session.scanPath_cases { scanner := .ofExtensions extensions } htree hnul recursive with
    ⟨hblocked, e, hscan⟩ | ⟨hopen, results, hscan, hlisted⟩
  · left
    simp only [hscan]
    exact ⟨hblocked .default, e.message, rfl⟩
  · right
    simp only [hscan]
    exact ⟨hopen, results, rfl, hlisted⟩

theorem scanProject_of_scanPath {results : List FileResult} {recursive : Bool}
    {extensions : List Text} (h : scanPath env.tree path recursive extensions = .ok results)
    (hlisted : FileResult.Listed results) :
    ∃ p, scanProject env path recursive extensions = .ok p ∧ Agrees p results := by
  refine ⟨_, ?_, agrees_of_listed env.tree hlisted⟩
  unfold scanProject projectOf
  rw [h]
  simp only [bind, Except.bind, Project.addAll_of_noNul hlisted.noNul]
  rfl

theorem scanProject_of_error {e : String} {recursive : Bool} {extensions : List Text}
    (h : scanPath env.tree path recursive extensions = .error e) :
    scanProject env path recursive extensions = .error e := by
  unfold scanProject projectOf
  rw [h]
  rfl

end Scan

/-! ## Paths one after the other -/

section Check

variable {env : Surroundings} {recursive : Bool} {extensions : List Text}

theorem checkFrom_of_error {path e : String} (out err paths : List String)
    (h : scanPath env.tree path recursive extensions = .error e) :
    (checkFrom (scanPath env.tree) env recursive extensions out err (path :: paths)).exit = 1 := by
  rw [checkFrom, h]
  rfl

theorem checkFrom_of_ok {path : String} {results : List FileResult} (out err paths : List String)
    (h : scanPath env.tree path recursive extensions = .ok results) :
    checkFrom (scanPath env.tree) env recursive extensions out err (path :: paths)
      = checkFrom (scanPath env.tree) env recursive extensions (out ++ results.flatMap violationLines)
        (err ++ results.flatMap errorLines) paths := by
  rw [checkFrom, h]

theorem checkFrom_exit (htree : env.tree.WellFormed) : ∀ paths out err : List String,
    (∀ path ∈ paths, '\x00' ∉ path.toList) →
    ((checkFrom (scanPath env.tree) env recursive extensions out err paths).exit = 0
      ↔ (out = [] ∧ err = []) ∧ ∀ path ∈ paths, ∃ p,
        scanProject env path recursive extensions = .ok p
          ∧ p.summary.okFiles = p.summary.totalFiles)
  | [], out, err, _ => by
    simp [checkFrom]
  | path :: paths, out, err, hnul => by
    rw [List.forall_mem_cons] at hnul ⊢
    rcases scanPath_cases htree hnul.1 recursive extensions with
      ⟨-, e, hscan⟩ | ⟨-, results, hscan, hlisted⟩
    · simp [checkFrom_of_error out err paths hscan, scanProject_of_error hscan]
    · obtain ⟨p, hp, hagrees⟩ := scanProject_of_scanPath hscan hlisted
      rw [checkFrom_of_ok out err paths hscan, checkFrom_exit htree paths _ _ hnul.2, hp]
      simp only [List.append_eq_nil_iff, Except.ok.injEq, exists_eq_left', hagrees.ok]
      tauto

theorem checkFrom_prints (htree : env.tree.WellFormed) {paths : List String}
    {projects : List Project} (out err : List String)
    (hnul : ∀ path ∈ paths, '\x00' ∉ path.toList)
    (h : List.Forall₂ (fun path p => scanProject env path recursive extensions = .ok p)
      paths projects) :
    (checkFrom (scanPath env.tree) env recursive extensions out err paths).out
        = out ++ projects.flatMap (fun p => (p.report true).violationLines)
      ∧ (checkFrom (scanPath env.tree) env recursive extensions out err paths).out.length
        = out.length + sumBy (fun p => p.summary.totalViolations) projects
      ∧ (checkFrom (scanPath env.tree) env recursive extensions out err paths).err.length
        = err.length + sumBy (fun p => p.summary.errorFiles) projects := by
  induction h generalizing out err with
  | nil => simp [checkFrom, sumBy]
  | @cons path p paths projects hp hall ih =>
    rw [List.forall_mem_cons] at hnul
    rcases scanPath_cases htree hnul.1 recursive extensions with
      ⟨-, e, hscan⟩ | ⟨-, results, hscan, hlisted⟩
    · rw [scanProject_of_error hscan] at hp
      cases hp
    · obtain ⟨p', hp', hagrees⟩ := scanProject_of_scanPath hscan hlisted
      obtain rfl : p = p' := Except.ok.inj (hp.symm.trans hp')
      rw [checkFrom_of_ok out err paths hscan]
      obtain ⟨hout, hlength, herr⟩ := ih (out ++ results.flatMap violationLines)
        (err ++ results.flatMap errorLines) hnul.2
      refine ⟨?_, ?_, ?_⟩
      · rw [hout, List.flatMap_cons, hagrees.lines, List.append_assoc]
      · rw [hlength, sumBy, hagrees.violations, List.length_append, Nat.add_assoc]
      · rw [herr, sumBy, hagrees.errors, List.length_append, Nat.add_assoc]

end Check

/-- The check of paths without a NUL character, as all are that exist. It succeeds exactly if each
path has a project and all files of these are good. If each has one, what is printed are the violations
of their reports, and as many errors as they have files that could not be read. A path that exists has
one unless it is a directory with a path below it that is too long. -/
theorem check_agrees_with_reports (env : Surroundings) (o : CheckOptions)
    (htree : env.tree.WellFormed) (hpaths : ∀ path ∈ o.paths, '\x00' ∉ path.toList) :
    ((run env (.check o)).exit = 0
      ↔ ∀ path ∈ o.paths, ∃ p, scanProject env path o.recursive o.extensions = .ok p
        ∧ p.summary.okFiles = p.summary.totalFiles)
    ∧ (∀ projects, List.Forall₂
        (fun path p => scanProject env path o.recursive o.extensions = .ok p) o.paths projects →
      (run env (.check o)).out = projects.flatMap (fun p => (p.report true).violationLines)
      ∧ (run env (.check o)).out.length = sumBy (fun p => p.summary.totalViolations) projects
      ∧ (run env (.check o)).err.length = sumBy (fun p => p.summary.errorFiles) projects)
    ∧ ∀ path ∈ o.paths, ∀ place, env.tree.resolve path = .ok place →
      ((∃ p, scanProject env path o.recursive o.extensions = .ok p)
        ↔ ¬(env.tree.entry? place = some .directory
          ∧ env.tree.Overlong (Path.ofString path) place o.recursive)) := by
  have hrun : run env (.check o)
      = checkFrom (scanPath env.tree) env o.recursive o.extensions [] [] o.paths := rfl
  rw [hrun]
  refine ⟨?_, fun projects h => ?_, fun path hpath place hplace => ?_⟩
  · rw [checkFrom_exit htree o.paths [] [] hpaths]
    simp
  · simpa using checkFrom_prints htree [] [] hpaths h
  · rw [← FileTree.blocked_iff htree hplace]
    rcases scanPath_cases htree (hpaths path hpath) o.recursive o.extensions with
      ⟨hblocked, e, hscan⟩ | ⟨hopen, results, hscan, hlisted⟩
    · simp [scanProject_of_error hscan, hblocked]
    · obtain ⟨p, hp, -⟩ := scanProject_of_scanPath hscan hlisted
      exact ⟨fun _ => hopen, fun _ => ⟨p, hp⟩⟩

theorem check_of_good_bad_unread :
    let tree := ((({} : FileTree).addFile [['x', '.', 'c']] []).addFile [['y', '.', 'c']]
      [0x0a]).addFile [['z', '.', 'c']] [0xff]
    let env : Surroundings := { tree }
    let outcome := run env (.check { paths := ["x.c", "y.c", "z.c"] })
    tree.WellFormed ∧ outcome.exit ≠ 0 ∧ outcome.out.length = 1 ∧ outcome.err.length = 1
      ∧ (run env (.check { paths := ["x.c"] })).exit = 0 := by
  intro tree env outcome
  have htree : tree.WellFormed := by decide
  obtain ⟨px, py, pz, hx, hy, hz, hgood, hbad, hviolations, herrors⟩ : ∃ px py pz,
      scanProject env "x.c" true Scanner.standardExtensions = .ok px
        ∧ scanProject env "y.c" true Scanner.standardExtensions = .ok py
        ∧ scanProject env "z.c" true Scanner.standardExtensions = .ok pz
        ∧ px.summary.okFiles = px.summary.totalFiles
        ∧ py.summary.okFiles ≠ py.summary.totalFiles
        ∧ sumBy (fun p => p.summary.totalViolations) [px, py, pz] = 1
        ∧ sumBy (fun p => p.summary.errorFiles) [px, py, pz] = 1 :=
    ⟨_, _, _, rfl, rfl, rfl, rfl, Nat.zero_ne_one, rfl, rfl⟩
  obtain ⟨hexit, hprints, -⟩ :=
    check_agrees_with_reports env { paths := ["x.c", "y.c", "z.c"] } htree (by decide)
  obtain ⟨-, hout, herr⟩ := hprints [px, py, pz] (.cons hx (.cons hy (.cons hz .nil)))
  obtain ⟨hexit', -⟩ := check_agrees_with_reports env { paths := ["x.c"] } htree (by decide)
  refine ⟨htree, fun h => ?_, hout.trans hviolations, herr.trans herrors, hexit'.2 ?_⟩
  · obtain ⟨p, hp, hok⟩ := hexit.1 h "y.c" (by simp)
    rw [← Except.ok.inj (hy.symm.trans hp)] at hok
    exact hbad hok
  · intro path hpath
    rw [List.mem_singleton.1 hpath]
    exact ⟨px, hx, hgood⟩

end Command

end SourceStyle
