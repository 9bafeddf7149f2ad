import SourceStyle.Json
import SourceStyle.Project.Summary

/-!
# Reports

A report holds the summary of a project, the recommendations, every file, and the ten files that
need work most. `toJson` gives its JSON form, the members in a fixed order.
-/

namespace SourceStyle

namespace Tally

def toJson (t : Tally) : Json := .obj (t.map fun (name, n) => (name, .int n))

end Tally

namespace FileEntry

def members (f : FileEntry) : List (String × Json) :=
  [("filepath", .str f.path), ("filename", .str f.name), ("status", .str f.grade.label),
    ("violation_count", .int f.violationCount), ("major_violations", .int f.majors),
    ("minor_violations", .int f.minors), ("info_violations", .int f.infos),
    ("rules", .arr (f.rules.map .str)), ("lines", .int f.lines),
    ("error", (f.error.map Json.str).getD .null)]

def toJson (f : FileEntry) : Json := .obj f.members

end FileEntry

namespace Summary

/-- The members of a summary, with `tally` for the form of the counts by rule. -/
def members (s : Summary) (tally : Tally → Json) : List (String × Json) :=
  [("total_files", .int s.totalFiles), ("ok_files", .int s.okFiles),
    ("minor_files", .int s.minorFiles), ("major_files", .int s.majorFiles),
    ("error_files", .int s.errorFiles), ("total_violations", .int s.totalViolations),
    ("total_lines", .int s.totalLines), ("success_rate", .float s.successRate),
    ("most_common_violations", .arr (s.mostCommon.map fun (rule, n) => .arr [.str rule, .int n])),
    ("rule_distribution", tally s.rules), ("severity_distribution", s.severities.toJson)]

end Summary

structure Report where
  summary : Summary
  recommendations : List String
  /-- Each file, and its violations if the report lists them. -/
  files : List (FileEntry × Option (List Violation))
  mostProblematic : List FileEntry

namespace Project

/-- The violations in the last result of a path. -/
def violationsOf (p : Project) (path : String) : List Violation :=
  ((p.results.find? path).map FileResult.violations).getD []

def report (p : Project) (withViolations : Bool) : Report where
  summary := p.summary
  recommendations := p.recommendations
  files := p.files.map fun f => (f, if withViolations then some (p.violationsOf f.path) else none)
  mostProblematic := p.mostProblematic 10

end Project

namespace Report

def fileJson (f : FileEntry) (violations : Option (List Violation)) : Json :=
  .obj (f.members ++ match violations with
    | some vs => [("violations", .arr (vs.map Violation.toJson))]
    | none => [])

/-- The report as JSON, with `tally` for the form of the counts by rule. -/
def toJson (r : Report) (tally : Tally → Json := Tally.toJson) : Json :=
  .obj [
    ("summary", .obj (r.summary.members tally)),
    ("recommendations", .arr (r.recommendations.map .str)),
    ("files", .arr (r.files.map fun (f, vs) => fileJson f vs)),
    ("most_problematic_files", .arr (r.mostProblematic.map fun f =>
      .obj [("filename", .str f.name), ("violation_count", .int f.violationCount),
        ("status", .str f.grade.label)]))]

end Report

namespace Project.Statistics

/-- A ratio, which is the whole number zero when there is nothing to divide by. -/
def ratioJson : Option Float → Json
  | some x => .float x
  | none => .int 0

def toJson (s : Statistics) (tally : Tally → Json := Tally.toJson) : Json :=
  .obj [
    ("overview", .obj [("total_files", .int s.summary.totalFiles),
      ("success_rate", .float s.summary.successRate),
      ("total_violations", .int s.summary.totalViolations)]),
    ("file_status_distribution", .obj [("OK", .int s.summary.okFiles),
      ("Minor", .int s.summary.minorFiles), ("Major", .int s.summary.majorFiles),
      ("Error", .int s.summary.errorFiles)]),
    ("severity_distribution", s.summary.severities.toJson),
    ("rule_distribution", tally s.summary.mostCommon),
    ("code_metrics", .obj [("total_lines", .int s.summary.totalLines),
      ("average_violations_per_file", ratioJson s.average),
      ("violation_density", ratioJson s.density)])]

end Project.Statistics

end SourceStyle
