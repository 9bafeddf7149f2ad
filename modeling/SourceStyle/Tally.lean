import SourceStyle.Keyed

/-!
# Tallies

How often each name occurs, in the order in which the names were first seen.
-/

namespace SourceStyle

abbrev Tally := Keyed String Nat

namespace Tally

def add (name : String) (n : Nat) (t : Tally) : Tally := t.alter name fun old => old.getD 0 + n

def ofNames (names : List String) : Tally := names.foldl (fun t name => t.add name 1) []

/-- Add the counts of one tally to another. -/
def merge (t u : Tally) : Tally := u.foldl (fun t (name, n) => t.add name n) t

end Tally

end SourceStyle
