import SourceStyle.Decimal.Format
import SourceStyle.Keyed

/-!
# JSON values

Whole numbers and fractions are different kinds of value. An object keeps the order of its members,
and a key given twice keeps its first place and its last value.
-/

namespace SourceStyle

inductive Json where
  | null
  | bool (b : Bool)
  | int (n : Int)
  | float (x : Float)
  | str (s : String)
  | arr (items : List Json)
  | obj (members : List (String × Json))

namespace Json

/-- The number format of JSON texts. -/
def numberStyle : Decimal.Style where
  positionalFrom := -4
  positionalBelow := 16
  exponentMark := "e"
  exponentWidth := 2
  infinite := "Infinity"
  notANumber := "NaN"

/-- The object of some members, later ones of a key taking the place of earlier ones. -/
def ofMembers (members : List (String × Json)) : Json :=
  obj (members.foldl (fun ms (k, v) => Keyed.insert k v ms) [])

def get? (key : String) : Json → Option Json
  | obj members => Keyed.find? members key
  | _ => none

/-- What a value is, whatever it holds. -/
inductive Kind where
  | null
  | bool
  | int
  | float
  | str
  | arr
  | obj
  deriving DecidableEq

/-- The name of a kind in the words of an error. -/
def Kind.name : Kind → String
  | null => "NoneType"
  | bool => "bool"
  | int => "int"
  | float => "float"
  | str => "str"
  | arr => "list"
  | obj => "dict"

def kind : Json → Kind
  | null => .null
  | bool _ => .bool
  | int _ => .int
  | float _ => .float
  | str _ => .str
  | arr _ => .arr
  | obj _ => .obj

/-- Null, false, zero and everything empty stand for no value. -/
def isBlank : Json → Bool
  | null => true
  | bool b => !b
  | int n => n = 0
  | float x => x == 0.0
  | str s => s.isEmpty
  | arr items => items.isEmpty
  | obj members => members.isEmpty

end Json

end SourceStyle
