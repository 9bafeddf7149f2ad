import SourceStyle.FileResult
import SourceStyle.Path

/-!
# Files of a project

What a project keeps about each file: its grade, its counts and its lines.
-/

namespace SourceStyle

/-- How good a file is. -/
inductive Grade where
  | ok
  | minor
  | major
  | error
  deriving DecidableEq

namespace Grade

def label : Grade → String
  | ok => "OK"
  | minor => "Minor"
  | major => "Major"
  | error => "Error"

def all : List Grade := [ok, minor, major, error]

/-- A label that no grade has. -/
structure Unknown where
  label : String

def Unknown.message (u : Unknown) : String := s!"{quoted u.label} is not a valid FileStatus"

def ofLabel (label : String) : Except Unknown Grade :=
  match all.find? (·.label = label) with
  | some g => .ok g
  | none => .error ⟨label⟩

/-- The grade of a file whose result is given. -/
def ofResult (r : FileResult) : Grade :=
  if r.status = .error then error
  else if r.violations.isEmpty then ok
  else if 0 < r.countOf .major then major
  else minor

end Grade

structure FileEntry where
  path : String
  name : String
  grade : Grade
  violationCount : Nat
  majors : Nat
  minors : Nat
  infos : Nat
  ruleCounts : Tally
  lines : Nat
  error : Option String
  deriving DecidableEq

namespace FileEntry

def ofResult (r : FileResult) (lines : Nat) : FileEntry where
  path := r.path
  name := String.ofList (Path.ofString r.path).name
  grade := .ofResult r
  violationCount := r.violations.length
  majors := r.countOf .major
  minors := r.countOf .minor
  infos := r.countOf .info
  ruleCounts := r.ruleCounts
  lines := lines
  error := r.error

def hasRule (f : FileEntry) (rule : String) : Bool := rule ∈ f.ruleCounts.keys

/-- The names of the rules that the file breaks, in order. -/
def rules (f : FileEntry) : List String :=
  f.ruleCounts.keys.mergeSort fun a b => Text.le a.toList b.toList

end FileEntry

end SourceStyle
