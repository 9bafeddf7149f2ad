import SourceStyle.Pattern
import SourceStyle.Violation

/-!
# The file header

Every file starts with a comment that names the project and its year and describes the file.
-/

namespace SourceStyle

namespace Header

open Pattern

/-- A line of the comment that starts with two stars and a blank. -/
def starred : Pattern := sequence [literal "** ", star dot, char '\n']

def pattern : Pattern := sequence [
  literal "/*\n** EPITECH PROJECT, ",
  many (one { items := [.range '0' '9'] }) 4 (some 4), char '\n',
  starred,
  literal "** File description:\n",
  plus starred,
  literal "*/\n",
  star dot]

/-- A column that lies past the end of every line. -/
def endOfLine : Nat := 9223372036854775807

/-- What a missing header is reported at: the six lines that a header takes. -/
def span : Span := ⟨⟨0, 0⟩, ⟨5, endOfLine⟩, .inl (by decide)⟩

def check (t : Text) : List Violation :=
  if pattern.matchesStart t then []
  else [⟨span, "File must start with the Epitech header.", "HEADER_MISSING", .major⟩]

end Header

end SourceStyle
