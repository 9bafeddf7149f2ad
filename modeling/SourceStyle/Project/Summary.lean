import SourceStyle.Project
import SourceStyle.Scanner

/-!
# Summaries

The counts of a project, its most common violations, the files that need work most, and what to do
first.
-/

namespace SourceStyle

/-- The part of a list that a limit leaves: so many from the front, or, if the limit is negative,
all but so many from the end. -/
def takeLimit {α : Type} (limit : Int) (l : List α) : List α :=
  if 0 ≤ limit then l.take limit.toNat else l.take (l.length - (-limit).toNat)

structure Summary where
  totalFiles : Nat
  okFiles : Nat
  minorFiles : Nat
  majorFiles : Nat
  errorFiles : Nat
  totalViolations : Nat
  totalLines : Nat
  /-- The good files in percent. -/
  successRate : Float
  mostCommon : List (String × Nat)
  rules : Tally
  /-- The violations of each severity; none at all if there are no files. -/
  severities : Tally

namespace Project

/-- The violations of each rule over all files. -/
def ruleDistribution (p : Project) : Tally :=
  (p.files.map FileEntry.ruleCounts).foldl Tally.merge []

/-- The ten most frequent rules. Of two that are equally frequent the one seen first comes first. -/
def mostCommon (rules : Tally) : List (String × Nat) :=
  (rules.mergeSort fun a b => b.2 ≤ a.2).take 10

def gradeCount (p : Project) (g : Grade) : Nat := p.files.countP (·.grade = g)

def summary (p : Project) : Summary :=
  if p.files.isEmpty then ⟨0, 0, 0, 0, 0, 0, 0, 0.0, [], [], []⟩
  else {
    totalFiles := p.files.length
    okFiles := p.gradeCount .ok
    minorFiles := p.gradeCount .minor
    majorFiles := p.gradeCount .major
    errorFiles := p.gradeCount .error
    totalViolations := sumBy FileEntry.violationCount p.files
    totalLines := sumBy FileEntry.lines p.files
    successRate := Session.percentage (p.gradeCount .ok) p.files.length
    mostCommon := mostCommon p.ruleDistribution
    rules := p.ruleDistribution
    severities := [("major", sumBy FileEntry.majors p.files),
      ("minor", sumBy FileEntry.minors p.files), ("info", sumBy FileEntry.infos p.files)] }

/-! ## The files that need work most -/

/-- Major violations weigh most, and violations in a short file more than in a long one. -/
def score (f : FileEntry) : Float :=
  let weight := (f.majors * 5 + f.minors * 2 + f.infos).toFloat
  if 0 < f.lines then weight + f.violationCount.toFloat / f.lines.toFloat * 50 else weight

/-- The files with violations by falling score, files of one score in their order. -/
def mostProblematic (p : Project) (limit : Int) : List FileEntry :=
  takeLimit limit <|
    (p.files.filter (0 < ·.violationCount)).mergeSort fun a b => !(score a < score b)

/-! ## Recommendations -/

def verdict (successRate : Float) : String :=
  if successRate < 50 then "🚨 Less than half of the files follow the coding style."
  else if successRate < 80 then
    "⚠️ Project needs improvement. Start with the files with the most violations."
  else "✅ Good coding style compliance!"

/-- What to do, in order of urgency. A project without files has no recommendations. -/
def recommendations (p : Project) : List String :=
  let s := p.summary
  if s.totalFiles = 0 then []
  else
    let major := if 0 < s.majorFiles then
      [s!"🔥 {s.majorFiles} files have major violations. Address these first."] else []
    let unreadable := if 0 < s.errorFiles then
      [s!"📛 {s.errorFiles} files could not be read."] else []
    let common := match s.mostCommon with
      | (rule, n) :: _ => [s!"📊 Most common violation: {rule} ({n} occurrences)."]
      | [] => []
    let focus := match p.mostProblematic 3 with
      | [] => []
      | fs => ["📁 Focus on these files: " ++ ", ".intercalate (fs.map FileEntry.name)]
    verdict s.successRate :: major ++ unreadable ++ common ++ focus

/-! ## Statistics -/

structure Statistics where
  summary : Summary
  /-- Violations per file, if there are files. -/
  average : Option Float
  /-- Violations per line, if there are lines. -/
  density : Option Float

def statistics (p : Project) : Statistics :=
  let s := p.summary
  let ratio (n : Nat) : Option Float :=
    if 0 < n then some (s.totalViolations.toFloat / n.toFloat) else none
  ⟨s, ratio s.totalFiles, ratio s.totalLines⟩

end Project

end SourceStyle
