/-!
# Texts and their lines

A text is the list of its characters, so every length, offset and column counts characters. A line
ends at `'\n'` and at nothing else: a text has one line more than it has newlines.
-/

namespace SourceStyle

abbrev Text := List Char

namespace Text

/-- Put a character in front of the first of some pieces. -/
def onFirst (c : Char) : List Text → List Text
  | [] => [[c]]
  | l :: ls => (c :: l) :: ls

/-- What stands between the separators, the empty pieces included. -/
def pieces : Text → Char → List Text
  | [], _ => [[]]
  | c :: t, separator =>
    if c = separator then [] :: pieces t separator else onFirst c (pieces t separator)

/-- What stands between the newlines. -/
def lines (t : Text) : List Text := t.pieces '\n'

/-- What follows the first newline. -/
def afterNewline : Text → Option Text
  | [] => none
  | c :: t => if c = '\n' then some t else afterNewline t

/-- The text from the start of a line on, for a line that there is. -/
def fromLine : Nat → Text → Option Text
  | 0, t => some t
  | n + 1, t => (afterNewline t).bind (fromLine n)

/-- The first line, without its newline. -/
def firstLine (t : Text) : Text := t.takeWhile (· ≠ '\n')

/-- Whether `s` stands somewhere in the text. -/
def contains : Text → Text → Bool
  | [], s => s.isEmpty
  | c :: t, s => s.isPrefixOf (c :: t) || contains t s

/-- A line by its number, a negative number counting from the end. -/
def lineAt? (t : Text) (i : Int) : Option Text :=
  if 0 ≤ i then t.lines[i.toNat]?
  else if 0 ≤ i + t.lines.length then t.lines[(i + t.lines.length).toNat]?
  else none

/-- The characters from offset `i` up to offset `j`, none when `j ≤ i`. -/
def slice (t : Text) (i j : Nat) : Text := (t.take j).drop i

/-- The order of texts, by the first character in which they differ. -/
def le : Text → Text → Bool
  | [], _ => true
  | _ :: _, [] => false
  | a :: s, b :: t => if a = b then le s t else a.toNat < b.toNat

end Text

end SourceStyle
