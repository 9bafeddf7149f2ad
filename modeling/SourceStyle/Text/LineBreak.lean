import SourceStyle.Text

/-!
# Line breaks in files

A file may end its lines with a line feed, a carriage return, or both. `unify` turns each of these
into one newline. `count` counts lines the way an editor does, with a wider set of breaks, and a
last line without break counts when it is not empty.
-/

namespace SourceStyle

namespace LineBreak

/-- Every line end becomes one newline. -/
def unify : Text → Text
  | [] => []
  | '\r' :: '\n' :: t => '\n' :: unify t
  | c :: t => (if c = '\r' then '\n' else c) :: unify t

/-- The characters that end a line when lines are counted. -/
def isBreak (c : Char) : Bool :=
  c ∈ ['\n', '\x0b', '\x0c', '\r', '\x1c', '\x1d', '\x1e', '\u0085', '\u2028', '\u2029']

/-- The lines still to count, where `pending` says that the current line has a character. -/
def countFrom (pending : Bool) : Text → Nat
  | [] => if pending then 1 else 0
  | '\r' :: '\n' :: t => countFrom false t + 1
  | c :: t => if isBreak c then countFrom false t + 1 else countFrom true t

/-- The number of lines, a carriage return and line feed together being one break. -/
def count (t : Text) : Nat := countFrom false t

end LineBreak

end SourceStyle
