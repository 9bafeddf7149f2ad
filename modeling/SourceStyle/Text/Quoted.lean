import SourceStyle.Text
import SourceStyle.Text.Printable

/-!
# Quoted text

How a text is shown inside a message: in quotes, with what does not print written out. Single quotes
are used unless the text has one and has no double quote.
-/

namespace SourceStyle

namespace Quoted

/-- The quote to put around a text. -/
def mark (t : Text) : Char := if t.contains ['\''] && !t.contains ['"'] then '"' else '\''

def hex (width n : Nat) : List Char :=
  let digits := Nat.toDigits 16 n
  List.replicate (width - digits.length) '0' ++ digits

def escape (mark c : Char) : List Char :=
  if c = mark ∨ c = '\\' then ['\\', c]
  else match c with
    | '\t' => ['\\', 't']
    | '\n' => ['\\', 'n']
    | '\r' => ['\\', 'r']
    | c =>
      if isPrintable c then [c]
      else if c.toNat < 0x100 then '\\' :: 'x' :: hex 2 c.toNat
      else if c.toNat < 0x10000 then '\\' :: 'u' :: hex 4 c.toNat
      else '\\' :: 'U' :: hex 8 c.toNat

end Quoted

/-- The text in quotes. -/
def quoted (s : String) : String :=
  let mark := Quoted.mark s.toList
  String.ofList (mark :: s.toList.flatMap (Quoted.escape mark) ++ [mark])

end SourceStyle
