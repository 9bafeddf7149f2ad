import SourceStyle.Text

/-!
# Paths

A path is a list of names below a root or below the current directory. Empty names and single dots
are dropped when a path is read; double dots stay.
-/

namespace SourceStyle

structure Path where
  /-- Empty, one slash or two. -/
  root : Text
  names : List Text
  deriving DecidableEq

namespace Path

/-- Two slashes at the start are a root of their own, three are one slash. -/
def rootOf : Text → Text
  | '/' :: '/' :: '/' :: _ => ['/']
  | '/' :: '/' :: _ => ['/', '/']
  | '/' :: _ => ['/']
  | _ => []

def ofString (s : String) : Path :=
  ⟨rootOf s.toList, (Text.pieces s.toList '/').filter fun n => !(n.isEmpty || n == ['.'])⟩

/-- Names with slashes between them. -/
def join : List Text → Text
  | [] => []
  | [n] => n
  | n :: ns => n ++ '/' :: join ns

def toText (p : Path) : Text :=
  if p.root.isEmpty && p.names.isEmpty then ['.'] else p.root ++ join p.names

def toString (p : Path) : String := String.ofList p.toText

/-- The path that goes on with more names. -/
def below (p : Path) (names : List Text) : Path := { p with names := p.names ++ names }

/-- The last name, empty if there is none. -/
def name (p : Path) : Text := p.names.getLast?.getD []

/-- The end of a name from its last dot on, unless that dot comes first or last. -/
def suffixOf (name : Text) : Text :=
  let tail := name.reverse.takeWhile (· ≠ '.')
  if tail.isEmpty || name.length ≤ tail.length + 1 then [] else '.' :: tail.reverse

def suffix (p : Path) : Text := suffixOf p.name

/-- The order of paths, by the first name in which they differ. -/
def namesLE : List Text → List Text → Bool
  | [], _ => true
  | _ :: _, [] => false
  | a :: s, b :: t => if a = b then namesLE s t else a.le b

end Path

end SourceStyle
