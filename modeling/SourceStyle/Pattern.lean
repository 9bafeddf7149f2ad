import SourceStyle.Text

/-!
# Patterns

Patterns of characters with alternatives, greedy repetition, look-ahead and anchors. A pattern is
tried by backtracking: `run` tries the ways to match in their order of preference, the first
alternative before the second and more repetitions before fewer, and gives the first one that the
rest of the match accepts.

`findAll` finds the matches of a pattern in a text from left to right. A search goes on at the end
of the match before it. A match may be empty, but then the next match ends further right.
-/

namespace SourceStyle

/-- A member of a character class: a range, or the letters, digits and underscore of ASCII. -/
inductive CharItem where
  | range (first last : Char)
  | word
  deriving DecidableEq

def CharItem.holds : CharItem → Char → Bool
  | range a b, c => a.toNat ≤ c.toNat && c.toNat ≤ b.toNat
  | word, c => c.isAlphanum || c == '_'

/-- A set of characters. With `anyCase` an ASCII letter is in the set when its other case is. -/
structure CharClass where
  items : List CharItem
  negated : Bool := false
  anyCase : Bool := false
  deriving DecidableEq

/-- Whether a character is in a set. Case and `word` are for ASCII alone: any other letter is in the
set only by itself, and never as part of a word. -/
def CharClass.accepts (k : CharClass) (c : Char) : Bool :=
  (k.items.any fun i => i.holds c || (k.anyCase && (i.holds c.toLower || i.holds c.toUpper)))
    != k.negated

inductive Pattern where
  | empty
  | one (k : CharClass)
  | seq (p q : Pattern)
  | either (p q : Pattern)
  /-- At least `least` times `p`, and at most `most` times if there is a bound. -/
  | many (p : Pattern) (least : Nat) (most : Option Nat)
  | ahead (p : Pattern)
  | notAhead (p : Pattern)
  | textStart
  | lineStart
  /-- The end, or the place before a newline that ends the text. -/
  | textEnd
  | lineEnd
  deriving DecidableEq

/-- A place in a text: its offset, the character before it and the text after it. -/
structure Cursor where
  offset : Nat
  prev : Option Char
  rest : Text
  deriving DecidableEq

namespace Cursor

def start (t : Text) : Cursor := ⟨0, none, t⟩

def atTextStart (c : Cursor) : Bool := c.prev.isNone

def atLineStart (c : Cursor) : Bool := c.prev.isNone || c.prev == some '\n'

def atTextEnd (c : Cursor) : Bool := c.rest.isEmpty || c.rest == ['\n']

def atLineEnd (c : Cursor) : Bool := c.rest.isEmpty || c.rest.head? == some '\n'

end Cursor

namespace Pattern

/-- A way to go on from a cursor: where the whole match ends, if it can be completed. -/
abbrev Next := Cursor → Option Cursor

/-- Exactly `n` times one step. -/
def times (step : Cursor → Next → Option Cursor) : Nat → Cursor → Next → Option Cursor
  | 0, c, next => next c
  | n + 1, c, next => step c fun d => times step n d next

/-- As many steps as possible, at most `n`. A step that stays in place is the last one. -/
def upTo (step : Cursor → Next → Option Cursor) : Nat → Cursor → Next → Option Cursor
  | 0, c, next => next c
  | n + 1, c, next =>
    (step c fun d => if c.offset < d.offset then upTo step n d next else next d).or (next c)

/-- Match at a cursor and go on with `next`. No step of a repetition that moves on can be taken more
often than there are characters left, which bounds the loop. -/
def run : Pattern → Cursor → Next → Option Cursor
  | empty, c, next => next c
  | one k, c, next =>
    match c.rest with
    | [] => none
    | x :: rest => if k.accepts x then next ⟨c.offset + 1, some x, rest⟩ else none
  | seq p q, c, next => p.run c fun d => q.run d next
  | either p q, c, next => (p.run c next).or (q.run c next)
  | many p least most, c, next =>
    times p.run least c fun d =>
      upTo p.run (match most with
        | none => d.rest.length
        | some m => min (m - least) d.rest.length) d next
  | ahead p, c, next => if (p.run c some).isSome then next c else none
  | notAhead p, c, next => if (p.run c some).isSome then none else next c
  | textStart, c, next => if c.atTextStart then next c else none
  | lineStart, c, next => if c.atLineStart then next c else none
  | textEnd, c, next => if c.atTextEnd then next c else none
  | lineEnd, c, next => if c.atLineEnd then next c else none

/-- Where the preferred match at a cursor ends. -/
def firstEnd (p : Pattern) (c : Cursor) : Option Nat :=
  (p.run c some).map Cursor.offset

/-- Where the preferred match at a cursor ends among those that are not empty. -/
def firstEndPast (p : Pattern) (c : Cursor) : Option Nat :=
  (p.run c fun d => if c.offset < d.offset then some d else none).map Cursor.offset

/-- The ends of the matches that a search reports at a cursor: an empty match may be followed by one
that is not. -/
def endsAt (p : Pattern) (c : Cursor) : List Nat :=
  match p.firstEnd c with
  | none => []
  | some e => if c.offset < e then [e] else e :: (p.firstEndPast c).toList

/-- The matches from a cursor on, those that would start before `resume` left out. -/
def findFrom (p : Pattern) (resume offset : Nat) (prev : Option Char) (t : Text) :
    List (Nat × Nat) :=
  let ends := if offset < resume then [] else p.endsAt ⟨offset, prev, t⟩
  ends.map (offset, ·) ++
    match t with
    | [] => []
    | x :: rest => p.findFrom (ends.getLast?.getD resume) (offset + 1) (some x) rest

/-- The matches in a text, each as its start and end offset, from left to right. -/
def findAll (p : Pattern) (t : Text) : List (Nat × Nat) := p.findFrom 0 0 none t

/-- Whether the pattern matches at the very start of a text. -/
def matchesStart (p : Pattern) (t : Text) : Bool := (p.firstEnd (Cursor.start t)).isSome

/-! ## Building patterns -/

def char (c : Char) : Pattern := one { items := [.range c c] }

def oneOf (cs : List Char) : Pattern := one { items := cs.map fun c => .range c c }

def noneOf (cs : List Char) : Pattern :=
  one { items := cs.map (fun c => .range c c), negated := true }

/-- The patterns one after another. -/
def sequence : List Pattern → Pattern
  | [] => empty
  | [p] => p
  | p :: ps => seq p (sequence ps)

/-- The first of the patterns that fits. -/
def choice : List Pattern → Pattern
  | [] => empty
  | [p] => p
  | p :: ps => either p (choice ps)

/-- The characters of a word. -/
def literal (s : String) : Pattern := sequence (s.toList.map char)

def star (p : Pattern) : Pattern := many p 0 none

def plus (p : Pattern) : Pattern := many p 1 none

def atLeast (n : Nat) (p : Pattern) : Pattern := many p n none

/-- Any character but a newline. -/
def dot : Pattern := noneOf ['\n']

end Pattern

end SourceStyle
