import SourceStyle.Text

/-!
# Positions and spans

A position is a line and a column, both counted from zero. `Text.positionAt` and `Text.offsetAt`
go from character offsets to positions and back. A span runs from one position to a later or equal
one.
-/

namespace SourceStyle

structure Position where
  line : Int
  column : Int
  deriving DecidableEq

namespace Position

/-- Reading order: by line, then by column. -/
protected def LE (a b : Position) : Prop :=
  a.line < b.line ∨ a.line = b.line ∧ a.column ≤ b.column

instance : LE Position := ⟨Position.LE⟩

instance (a b : Position) : Decidable (a ≤ b) :=
  inferInstanceAs (Decidable (a.line < b.line ∨ a.line = b.line ∧ a.column ≤ b.column))

/-- Why an offset, a position or a pair of positions has no place in a text. -/
inductive Error where
  | offsetOutside (offset : Int) (length : Nat)
  | negative (p : Position)
  | lineOutside (line : Int)
  | columnPastEnd (p : Position)
  | reversed (start stop : Position)
  deriving DecidableEq

def Error.message : Error → String
  | offsetOutside o n => s!"Offset {o} outside text of length {n}"
  | negative p => s!"Negative position ({p.line}, {p.column})"
  | lineOutside l => s!"Line {l} outside text"
  | columnPastEnd p => s!"Column {p.column} past end of line {p.line}"
  | reversed a b =>
    s!"Span starts after it ends: Span(start_line={a.line}, start_col={a.column}, " ++
      s!"end_line={b.line}, end_col={b.column})"

end Position

/-- A stretch of text, by the positions of its two ends. -/
structure Span where
  start : Position
  stop : Position
  ordered : start ≤ stop
  deriving DecidableEq

namespace Span

def between (start stop : Position) : Except Position.Error Span :=
  if h : start ≤ stop then .ok ⟨start, stop, h⟩ else .error (.reversed start stop)

/-- The first `length` columns of a line. -/
def ofLine (line length : Nat) : Span :=
  ⟨⟨line, 0⟩, ⟨line, length⟩, .inr ⟨rfl, Int.natCast_nonneg length⟩⟩

def isSingleLine (s : Span) : Bool := s.start.line = s.stop.line

end Span

namespace Text

/-- The line of an offset is the number of newlines before it, its column the distance from the
last of them. -/
def positionAt (t : Text) (offset : Int) : Except Position.Error Position :=
  if offset < 0 ∨ t.length < offset then
    .error (.offsetOutside offset t.length)
  else
    let before := t.take offset.toNat
    .ok ⟨before.count '\n', (before.reverse.takeWhile (· ≠ '\n')).length⟩

/-- The offset of a position, which exists when the line does and the column is not past its end. -/
def offsetAt (t : Text) (p : Position) : Except Position.Error Nat :=
  if p.line < 0 ∨ p.column < 0 then
    .error (.negative p)
  else
    match t.fromLine p.line.toNat with
    | none => .error (.lineOutside p.line)
    | some rest =>
      if rest.firstLine.length < p.column then
        .error (.columnPastEnd p)
      else
        .ok (t.length - rest.length + p.column.toNat)

def spanAt (t : Text) (start stop : Int) : Except Position.Error Span := do
  Span.between (← t.positionAt start) (← t.positionAt stop)

end Text

end SourceStyle
