import SourceStyle.Tally
import SourceStyle.Violation

/-!
# Results of files

What a scan says about one file: its violations, or why it could not be read.
-/

namespace SourceStyle

/-- A label for the outcome. A scan gives one of `ok`, `violations` and `error`. -/
structure Status where
  label : String
  deriving DecidableEq

namespace Status

def ok : Status := ⟨"OK"⟩

def violations : Status := ⟨"Violations"⟩

def error : Status := ⟨"Error"⟩

end Status

structure FileResult where
  path : String
  status : Status
  violations : List Violation := []
  error : Option String := none
  deriving DecidableEq

namespace FileResult

/-- How many violations have a severity. -/
def countOf (r : FileResult) (s : Severity) : Nat := r.violations.countP (·.severity = s)

def ruleCounts (r : FileResult) : Tally := Tally.ofNames (r.violations.map Violation.rule)

def describe (r : FileResult) : String :=
  s!"FileResult(filepath='{r.path}', status='{r.status.label}', violations={r.violations.length})"

end FileResult

end SourceStyle
