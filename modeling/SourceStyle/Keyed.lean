/-!
# Keyed lists

Lists of pairs in which a key has one place: the place where it was first put. What is put later
under the same key takes that place.
-/

namespace SourceStyle

abbrev Keyed (κ υ : Type) := List (κ × υ)

namespace Keyed

variable {κ υ : Type} [DecidableEq κ]

/-- Change the value of a key, or add the key at the end. -/
def alter (k : κ) (f : Option υ → υ) : Keyed κ υ → Keyed κ υ
  | [] => [(k, f none)]
  | (a, v) :: m => if a = k then (a, f (some v)) :: m else (a, v) :: alter k f m

def insert (k : κ) (v : υ) (m : Keyed κ υ) : Keyed κ υ := m.alter k fun _ => v

def find? (m : Keyed κ υ) (k : κ) : Option υ := (List.find? (·.1 = k) m).map Prod.snd

def keys (m : Keyed κ υ) : List κ := m.map Prod.fst

def values (m : Keyed κ υ) : List υ := m.map Prod.snd

end Keyed

end SourceStyle
