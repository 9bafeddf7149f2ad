import SourceStyle.Position

/-!
# Line tables

The offsets at which the lines of a text start, for finding the positions of many offsets. A look-up
is a binary search and gives the position that `Text.positionAt` gives.
-/

namespace SourceStyle

structure LineTable where
  length : Nat
  starts : Array Nat

namespace LineTable

/-- The offsets after each newline of a text that itself starts at `offset`. -/
def startsFrom (offset : Nat) : Text → List Nat
  | [] => []
  | c :: t =>
    if c = '\n' then (offset + 1) :: startsFrom (offset + 1) t else startsFrom (offset + 1) t

def ofText (t : Text) : LineTable := ⟨t.length, (0 :: startsFrom 0 t).toArray⟩

/-- The first index from `lo` up to `hi` whose entry is above `x`, or `hi`, in a sorted array. -/
def upperBound (a : Array Nat) (x lo hi : Nat) : Nat :=
  if lo < hi then
    let mid := (lo + hi) / 2
    if x < a.getD mid 0 then upperBound a x lo mid else upperBound a x (mid + 1) hi
  else lo
termination_by hi - lo

def positionAt (table : LineTable) (offset : Int) : Except Position.Error Position :=
  if offset < 0 ∨ table.length < offset then
    .error (.offsetOutside offset table.length)
  else
    let line := upperBound table.starts offset.toNat 0 table.starts.size - 1
    .ok ⟨line, offset - table.starts.getD line 0⟩

def spanAt (table : LineTable) (start stop : Int) : Except Position.Error Span := do
  Span.between (← table.positionAt start) (← table.positionAt stop)

end LineTable

end SourceStyle
