import SourceStyle.LineTable
import SourceStyle.Pattern.Parser
import SourceStyle.Violation

/-!
# Pattern rules

A rule reports every match of its pattern. `Rule.standard` lists the rules of the coding style in
the order in which they are applied. Each carries its pattern twice: written out, for people, and as
the pattern that is run, which is what the written one is read as (`parse?_source`). What is
reported depends on the pattern only through the stretches that it finds, so a `Finder` has any
function for these.
-/

namespace SourceStyle

/-- What is reported of the stretches of a text that are found by a function, each given by the
offsets of its ends. -/
structure Finder where
  name : String
  message : String
  severity : Severity := .minor
  find : Text → List (Nat × Nat)

/-- The violations of a text, in the order in which their stretches are found. -/
def Finder.check (f : Finder) (t : Text) : Except Position.Error (List Violation) :=
  let table := LineTable.ofText t
  (f.find t).mapM fun (start, stop) => do
    return ⟨← table.spanAt start stop, f.message, f.name, f.severity⟩

structure Rule where
  name : String
  /-- The pattern as it is written. -/
  source : String
  pattern : Pattern
  message : String
  severity : Severity := .minor

namespace Rule

/-- The rule by the matches of its pattern. -/
def finder (r : Rule) : Finder := ⟨r.name, r.message, r.severity, r.pattern.findAll⟩

/-- The violations of a rule in a text, in the order of its matches. -/
def check (r : Rule) (t : Text) : Except Position.Error (List Violation) := r.finder.check t

open Pattern

def trailingWhitespace : Rule where
  name := "TRAILING_WHITESPACE"
  source := "(?:\\t| )+$"
  pattern := seq (plus (either (char '\t') (char ' '))) lineEnd
  message := "Line can't end with tabs or spaces."

def spaceBeforeTab : Rule where
  name := "SPACE_BEFORE_TAB"
  source := " +\\t+"
  pattern := seq (plus (char ' ')) (plus (char '\t'))
  message := "Can't have multiple tabs or spaces."

/-- The look-ahead asks for a brace where the comment has to start, so this rule has no match. The
comments in a body are found line by line instead. -/
def commentInFunction : Rule where
  name := "COMMENT_IN_FUNCTION"
  source := "(?=\\\x7b(?:.*|.*\\n)*)(?://|/\\*).*"
  pattern := sequence [
    ahead (seq (char '\x7b') (star (either (star dot) (seq (star dot) (char '\n'))))),
    either (literal "//") (literal "/*"),
    star dot]
  message := "Can't have comment inside function."

def tabBeforeSpace : Rule where
  name := "TAB_BEFORE_SPACE"
  source := "\\t+ +"
  pattern := seq (plus (char '\t')) (plus (char ' '))
  message := "Can't have multiple tabs or spaces."

/-- A brace and the rest of its line, at least 21 lines that do not start with a closing brace, and
one that does. -/
def functionTooLong : Rule where
  name := "FUNCTION_TOO_LONG"
  source := "\\\x7b[^\\n]*\\n(?:(?!\\\x7d)[^\\n]*\\n)\x7b21,\x7d\\\x7d"
  pattern := sequence [
    char '\x7b', star (noneOf ['\n']), char '\n',
    atLeast 21 (sequence [notAhead (char '\x7d'), star (noneOf ['\n']), char '\n']),
    char '\x7d']
  message := "Function can't exceed 20 lines."
  severity := .major

def spaceAfterKeyword : Rule where
  name := "SPACE_AFTER_KEYWORD"
  source := "(?:return|if|else if|else|while|for)(?=\\(|  +|\\t)"
  pattern := seq
    (choice (["return", "if", "else if", "else", "while", "for"].map literal))
    (ahead (choice [char '(', seq (char ' ') (plus (char ' ')), char '\t']))
  message := "Must have space after keyword."

def tooManyParams : Rule where
  name := "TOO_MANY_PARAMS"
  source := "\\((?:[^(),]*,)\x7b4,\x7d[^()]*\\)[ \\t\\n]+(?=\\\x7b)"
  pattern := sequence [
    char '(', atLeast 4 (seq (star (noneOf ['(', ')', ','])) (char ',')),
    star (noneOf ['(', ')']), char ')', plus (oneOf [' ', '\t', '\n']),
    ahead (char '\x7b')]
  message := "Can't have more than 4 parameters to function."
  severity := .major

def standard : List Rule :=
  [trailingWhitespace, spaceBeforeTab, commentInFunction, tabBeforeSpace, functionTooLong,
    spaceAfterKeyword, tooManyParams]

/-- The pattern of each rule is the one that is written, read with anchors that hold at every line for
blanks at the end of one and without flags for all others. -/
theorem parse?_source : ∀ r ∈ standard,
    parse? r.source { multiline := r.name == "TRAILING_WHITESPACE" } = some r.pattern := by
  decide +kernel

end Rule

end SourceStyle
