import SourceStyle.BodyComment
import SourceStyle.Header
import SourceStyle.LineLength
import SourceStyle.Rule

/-!
# The checks of a text

`Checks.scan` gives the violations of a text: the missing header, the long lines, the comments in
bodies, then those of each rule in order. Nothing is sorted or merged. `Checks.scanWith` is the same
scan for rules that are given by what they find. `Violation.excerpt` gives the text that a violation
covers.
-/

namespace SourceStyle

structure Checks where
  limits : LineLength := {}
  rules : List Rule := Rule.standard

namespace Checks

def standard : Checks := {}

/-- Why a text cannot be checked. -/
inductive Error where
  | length (e : LineLength.Error)
  | position (e : Position.Error)
  deriving DecidableEq

def Error.message : Error → String
  | length e => e.message
  | position e => e.message

/-- The violations found line by line. -/
def scanLines (limits : LineLength) (t : Text) : Except LineLength.Error (List Violation) := do
  return Header.check t ++ (← limits.check t.lines) ++ BodyComment.check t.lines

/-- The violations found by several finders, one after the other. -/
def scanFinders (finders : List Finder) (t : Text) : Except Position.Error (List Violation) := do
  return (← finders.mapM (Finder.check · t)).flatten

/-- The violations found by the rules. -/
def scanRules (rules : List Rule) (t : Text) : Except Position.Error (List Violation) :=
  scanFinders (rules.map Rule.finder) t

/-- All violations of a text. The empty text has none. -/
def scanWith (limits : LineLength) (finders : List Finder) (t : Text) :
    Except Error (List Violation) := do
  if t.isEmpty then
    return []
  let found ← (scanLines limits t).mapError .length
  return found ++ (← (scanFinders finders t).mapError .position)

def scan (checks : Checks) (t : Text) : Except Error (List Violation) :=
  scanWith checks.limits (checks.rules.map Rule.finder) t

end Checks

namespace Violation

/-- Why a span has no excerpt in a text. -/
inductive ExcerptError where
  | noSuchLine
  | position (e : Position.Error)

def ExcerptError.message : ExcerptError → String
  | noSuchLine => "list index out of range"
  | position e => e.message

/-- The offset of a position, a column past the end of its line standing for that end. -/
def clampedOffset (t : Text) (p : Position) : Except ExcerptError Nat :=
  match t.lineAt? p.line with
  | none => .error .noSuchLine
  | some line => (t.offsetAt ⟨p.line, min p.column line.length⟩).mapError .position

/-- The text that a violation covers. Lines past the last stand for the last, and a violation that
starts past it covers nothing. -/
def excerpt (t : Text) (v : Violation) : Except ExcerptError Text := do
  let count := t.lines.length
  if count ≤ v.span.start.line then
    return []
  let start ← clampedOffset t v.span.start
  let stop ← clampedOffset t ⟨min v.span.stop.line (count - 1), v.span.stop.column⟩
  return t.slice start stop

end Violation

end SourceStyle
