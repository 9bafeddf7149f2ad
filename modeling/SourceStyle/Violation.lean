import SourceStyle.Json
import SourceStyle.Position
import SourceStyle.Text.Quoted

/-!
# Violations

A violation is a span of a text that breaks a rule, with the rule's name, severity and message.
-/

namespace SourceStyle

inductive Severity where
  | major
  | minor
  | info
  deriving DecidableEq

namespace Severity

def name : Severity → String
  | major => "major"
  | minor => "minor"
  | info => "info"

/-- A name that no severity has. -/
structure Unknown where
  name : String

def Unknown.message (u : Unknown) : String := s!"{quoted u.name} is not a valid Severity"

def ofName : String → Except Unknown Severity
  | "major" => .ok major
  | "minor" => .ok minor
  | "info" => .ok info
  | other => .error ⟨other⟩

end Severity

structure Violation where
  span : Span
  message : String
  rule : String
  severity : Severity
  deriving DecidableEq

namespace Violation

/-- One line that says where and what, lines and columns counted from one. -/
def describe (v : Violation) : String :=
  s!"{v.span.start.line + 1}:{v.span.start.column + 1}: {v.severity.name}: " ++
    s!"{v.message} [{v.rule}]"

/-- The violation as the members of an object, with its span spelled out. -/
def members (v : Violation) : List (String × Json) :=
  [("rule", .str v.rule), ("message", .str v.message), ("severity", .str v.severity.name),
    ("start_line", .int v.span.start.line), ("start_col", .int v.span.start.column),
    ("end_line", .int v.span.stop.line), ("end_col", .int v.span.stop.column)]

def toJson (v : Violation) : Json := .obj v.members

end Violation

end SourceStyle
