/-!
# Sums

The sum of a number over the items of a list.
-/

namespace SourceStyle

def sumBy {α : Type} (f : α → Nat) : List α → Nat
  | [] => 0
  | a :: l => f a + sumBy f l

end SourceStyle
