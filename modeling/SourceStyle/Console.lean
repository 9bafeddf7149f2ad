import SourceStyle.Project.Report

/-!
# Console

What is shown on a console: lines, panels and tables. Style marks stand in square brackets around
the words that they apply to.
-/

namespace SourceStyle

inductive ConsoleItem where
  | line (text : String)
  | panel (title text : String)
  | table (title : String) (columns : List String) (rows : List (List String))
  /-- A server was started. -/
  | serving (host : String) (port : Int) (debug : Bool)

namespace ConsoleItem

def styled (style text : String) : String := s!"[{style}]{text}[/{style}]"

def severityStyle : Severity → String
  | .major => "bold red"
  | .minor => "yellow"
  | .info => "dim"

def gradeStyle : Grade → String
  | .ok => "green"
  | .minor => "yellow"
  | .major => "bold red"
  | .error => "red"

/-- A rate in percent with one place. -/
def percent (x : Float) : String := Json.numberStyle.onePlace x ++ "%"

/-! ## Scans -/

def scanSummary (s : Summary) : ConsoleItem :=
  .panel "Scan Summary" <| "\n".intercalate [
    s!"Total Files: {s.totalFiles}",
    s!"OK Files: {s.okFiles}",
    s!"Files with Major Violations: {s.majorFiles}",
    s!"Files with Minor Violations: {s.minorFiles}",
    s!"Unreadable Files: {s.errorFiles}",
    s!"Success Rate: {percent s.successRate}",
    s!"Total Violations: {s.totalViolations}"]

def fileRow (f : FileEntry) : List String :=
  [f.name, styled (gradeStyle f.grade) f.grade.label, toString f.violationCount, toString f.majors,
    if f.rules.isEmpty then "None" else ", ".intercalate f.rules]

def fileTable (files : List FileEntry) : ConsoleItem :=
  .table "Files" ["File", "Status", "Violations", "Major", "Rules"] (files.map fileRow)

/-- A violation with its line and column counted from one. -/
def violationRow (v : Violation) : List String :=
  [toString (v.span.start.line + 1), toString (v.span.start.column + 1),
    styled (severityStyle v.severity) v.severity.name, v.rule, v.message]

/-- The violations of a file, if it has any. -/
def violationTable (path : String) (violations : List Violation) : List ConsoleItem :=
  if violations.isEmpty then []
  else [.table path ["Line", "Col", "Severity", "Rule", "Message"] (violations.map violationRow)]

/-- The summary of a project and the files that a filter keeps, with their violations if wanted. -/
def ofScan (p : Project) (q : Project.Filter) (details : Bool) : List ConsoleItem :=
  let files := p.filter q
  let shown :=
    if files.isEmpty then [.line (styled "yellow" "No files match the specified filters")]
    else fileTable files ::
      if details then files.flatMap fun f => violationTable f.path (p.violationsOf f.path) else []
  scanSummary p.summary :: shown

/-! ## Reports -/

def reportSummary (s : Summary) : ConsoleItem :=
  .panel "Summary" <| "\n".intercalate [
    styled "bold" "Coding Style Report",
    "",
    s!"Total Files: {s.totalFiles}",
    s!"OK Files: {s.okFiles}",
    s!"Files with Major Violations: {s.majorFiles}",
    s!"Files with Minor Violations: {s.minorFiles}",
    s!"Success Rate: {percent s.successRate}",
    s!"Total Violations: {s.totalViolations}"]

/-- A heading with lines below it, if there are any. -/
def listing (heading : String) (lines : List String) : List ConsoleItem :=
  if lines.isEmpty then []
  else .line ("\n" ++ styled "bold" heading) :: lines.map fun l => .line ("  " ++ l)

/-- The summary of a project, its five most common violations, and recommendations if wanted. -/
def ofReport (p : Project) (advice : Bool) : List ConsoleItem :=
  let common := (p.summary.mostCommon.take 5).map fun (rule, n) => s!"• {rule}: {n} occurrences"
  reportSummary p.summary :: listing "Most Common Violations:" common ++
    listing "Recommendations:" (if advice then p.recommendations else [])

/-! ## Rules -/

def ruleRow (i : Nat) (r : Rule) : List String :=
  [toString (i + 1), r.name, styled (severityStyle r.severity) r.severity.name, r.message]

def ruleTable (rules : List Rule) : ConsoleItem :=
  .table "Pattern Rules" ["#", "Rule", "Severity", "Message"] (rules.mapIdx ruleRow)

/-! ## Plain text -/

/-- An item in lines of plain text, style marks and all, the cells of a table divided by tabs. -/
def lines : ConsoleItem → List String
  | line text => [text]
  | panel title text => [title, text]
  | table title columns rows => title :: (columns :: rows).map "\t".intercalate
  | serving host port _ => [s!"{host}:{port}"]

end ConsoleItem

end SourceStyle
