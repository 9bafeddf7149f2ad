import SourceStyle.Decimal.Integer
import SourceStyle.SumBy
import SourceStyle.Violation

/-!
# Line length

A line is measured with every tab counted as a fixed number of blanks, and reported when it is
longer than the limit. The tab size has to be a number that can count the characters of a text, and
the limit one that can be written down in the message of a line that passes it.
-/

namespace SourceStyle

structure LineLength where
  tabSize : Int := 8
  maxColumns : Int := 80

namespace LineLength

/-- Why lines cannot be checked. -/
inductive Error where
  | tabSize
  | maxColumns
  deriving DecidableEq

def Error.message : Error → String
  | tabSize => "cannot fit 'int' into an index-sized integer"
  | maxColumns =>
    s!"Exceeds the limit ({Decimal.mostDigits} digits) for integer string conversion; " ++
      "use sys.set_int_max_str_digits() to increase the limit"

/-- The columns that a character takes. A tab takes none when the tab size is not positive. -/
def width (limits : LineLength) (c : Char) : Nat :=
  if c = '\t' then limits.tabSize.toNat else 1

def measure (limits : LineLength) (line : Text) : Nat := sumBy limits.width line

def violation (limits : LineLength) (i length : Nat) : Violation where
  span := Span.ofLine i length
  message := s!"Line can't exceed {limits.maxColumns} columns ({length})."
  rule := "TOO_LONG_LINE"
  severity := .major

/-- What is reported of line `i`. The tabs are written out before the line is looked at, so the tab
size counts for a line without tabs too. The limit is only written for a line that passes it. -/
def checkLine (limits : LineLength) (i : Nat) (line : Text) : Except Error (Option Violation) :=
  if ¬ Decimal.IsIndex limits.tabSize then .error .tabSize
  else if limits.measure line ≤ limits.maxColumns then .ok none
  else if ¬ Decimal.IsWritable limits.maxColumns then .error .maxColumns
  else .ok (some (limits.violation i (limits.measure line)))

/-- The long ones among lines of which the first has number `i`. -/
def checkFrom (limits : LineLength) (i : Nat) : List Text → Except Error (List Violation)
  | [] => .ok []
  | line :: lines => do
    let found ← limits.checkLine i line
    return found.toList ++ (← limits.checkFrom (i + 1) lines)

def check (limits : LineLength) (lines : List Text) : Except Error (List Violation) :=
  limits.checkFrom 0 lines

end LineLength

end SourceStyle
