import SourceStyle.Violation

/-!
# Comments in function bodies

A body opens on a line that starts with an opening brace and closes on one that starts with a
closing brace. Braces further right do not count. A line of a body that holds the start of a comment
is reported.
-/

namespace SourceStyle

namespace BodyComment

/-- Whether a body is open on a line, when `inside` says whether one was open before it. -/
def opened (inside : Bool) (line : Text) : Bool :=
  match line.head? with
  | some '\x7b' => true
  | some '\x7d' => false
  | _ => inside

def hasComment (line : Text) : Bool :=
  line.contains ['/', '/'] || line.contains ['/', '*']

def violation (i : Nat) (line : Text) : Violation where
  span := Span.ofLine i line.length
  message := "Can't have comment inside function."
  rule := "COMMENT_IN_FUNCTION"
  severity := .minor

/-- The comments in lines of which the first has number `i`. -/
def checkFrom (inside : Bool) (i : Nat) : List Text → List Violation
  | [] => []
  | line :: lines =>
    let inside := opened inside line
    if inside && hasComment line then violation i line :: checkFrom inside (i + 1) lines
    else checkFrom inside (i + 1) lines

def check (lines : List Text) : List Violation := checkFrom false 0 lines

end BodyComment

end SourceStyle
