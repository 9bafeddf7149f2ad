import SourceStyle.Pattern

/-!
# Reading patterns

Written patterns have literals, `.`, `\w` and escaped characters, classes in square brackets,
the greedy repetitions `*`, `+`, `?` and `{m,n}`, alternatives, groups `(?:...)`, look-ahead
`(?=...)` and `(?!...)`, and the anchors `^` and `$`.

A written pattern is first cut into tokens. The tokens are then put together from left to right,
with the groups that are still open on a stack.
-/

namespace SourceStyle

namespace Pattern

structure Flags where
  /-- Anchors hold at every line. -/
  multiline : Bool := false
  /-- Letters match in both cases. -/
  anyCase : Bool := false
  /-- The dot takes newlines too. -/
  dotAll : Bool := false

inductive GroupKind where
  | plain
  | ahead
  | notAhead

inductive Token where
  | one (k : CharClass)
  | anchor (p : Pattern)
  | opening (g : GroupKind)
  | closing
  | bar
  | repetition (least : Nat) (most : Option Nat)

namespace Token

/-- The character that a letter stands for after a backslash. -/
def control? : Char → Option Char
  | 'n' => some '\n'
  | 't' => some '\t'
  | 'r' => some '\r'
  | 'f' => some '\x0c'
  | 'v' => some '\x0b'
  | 'a' => some '\x07'
  | _ => none

/-- What an escaped character stands for. A letter or digit without a meaning is no pattern. -/
def escaped? (c : Char) : Option CharItem :=
  if c = 'w' then some .word
  else match control? c with
    | some d => some (.range d d)
    | none => if c.isAlphanum then none else some (.range c c)

/-- One member of a class, not looking for a range. -/
def classMember? : Text → Option (CharItem × Text)
  | '\\' :: c :: t => (escaped? c).map (·, t)
  | '\\' :: [] => none
  | c :: t => some (.range c c, t)
  | [] => none

/-- The members of a class up to its closing bracket. -/
def classItems? : Nat → List CharItem → Text → Option (List CharItem × Text)
  | 0, _, _ => none
  | fuel + 1, done, t =>
    match t, done with
    | ']' :: rest, _ :: _ => some (done.reverse, rest)
    | t, _ =>
      match classMember? t with
      | none => none
      | some (.range a _, '-' :: rest) =>
        match rest with
        | ']' :: _ => classItems? fuel (.range a a :: done) ('-' :: rest)
        | _ =>
          match classMember? rest with
          | some (.range b _, rest) =>
            if b.toNat < a.toNat then none else classItems? fuel (.range a b :: done) rest
          | _ => none
      | some (item, rest) => classItems? fuel (item :: done) rest

def class? (flags : Flags) (t : Text) : Option (Token × Text) :=
  let (negated, t) := match t with
    | '^' :: r => (true, r)
    | r => (false, r)
  (classItems? (t.length + 1) [] t).map fun (items, rest) =>
    (.one ⟨items, negated, flags.anyCase⟩, rest)

def number (ds : List Char) : Nat := ds.foldl (fun n c => 10 * n + (c.toNat - '0'.toNat)) 0

/-- The bounds of a counted repetition after its opening brace, if that is what follows. -/
def bounds? (t : Text) : Option (Token × Text) :=
  let low := t.takeWhile Char.isDigit
  let rest := t.dropWhile Char.isDigit
  let least := number low
  match rest with
  | '\x7d' :: rest => if low.isEmpty then none else some (.repetition least (some least), rest)
  | ',' :: rest =>
    let high := rest.takeWhile Char.isDigit
    match rest.dropWhile Char.isDigit with
    | '\x7d' :: rest =>
      some (.repetition least (if high.isEmpty then none else some (number high)), rest)
    | _ => none
  | _ => none

def literal (flags : Flags) (c : Char) : Token := .one ⟨[.range c c], false, flags.anyCase⟩

/-- A repetition mark with what follows it. Marks on marks are no pattern. -/
def greedy? (token : Token) : Text → Option (Token × Text)
  | '?' :: _ => none
  | '+' :: _ => none
  | t => some (token, t)

/-- The first token of a written pattern. -/
def first? (flags : Flags) : Text → Option (Token × Text)
  | [] => none
  | '(' :: '?' :: ':' :: t => some (.opening .plain, t)
  | '(' :: '?' :: '=' :: t => some (.opening .ahead, t)
  | '(' :: '?' :: '!' :: t => some (.opening .notAhead, t)
  | '(' :: _ => none
  | ')' :: t => some (.closing, t)
  | '|' :: t => some (.bar, t)
  | '^' :: t => some (.anchor (if flags.multiline then lineStart else textStart), t)
  | '$' :: t => some (.anchor (if flags.multiline then lineEnd else textEnd), t)
  | '.' :: t => some (.one ⟨if flags.dotAll then [] else [.range '\n' '\n'], true, false⟩, t)
  | '[' :: t => class? flags t
  | '*' :: t => greedy? (.repetition 0 none) t
  | '+' :: t => greedy? (.repetition 1 none) t
  | '?' :: t => greedy? (.repetition 0 (some 1)) t
  | '\x7b' :: t =>
    match bounds? t with
    | some (token, rest) => greedy? token rest
    | none => some (literal flags '\x7b', t)
  | '\\' :: c :: t => (escaped? c).map fun item => (.one ⟨[item], false, flags.anyCase⟩, t)
  | '\\' :: [] => none
  | c :: t => some (literal flags c, t)

/-- All tokens of a written pattern. -/
def all? (flags : Flags) (t : Text) : Option (List Token) :=
  if t.isEmpty then some []
  else match first? flags t with
    | none => none
    | some (token, rest) =>
      if rest.length < t.length then (all? flags rest).map (token :: ·) else none
termination_by t.length

end Token

/-- A part of a sequence, and whether a repetition mark may follow it. -/
structure Part where
  pattern : Pattern
  repeatable : Bool

/-- A group that is still open: the alternatives before the current one and the parts of the current
one, each with the last first. -/
structure OpenGroup where
  kind : GroupKind
  earlier : List Pattern := []
  parts : List Part := []

namespace OpenGroup

def alternative (g : OpenGroup) : Pattern := sequence (g.parts.reverse.map Part.pattern)

def body (g : OpenGroup) : Pattern := choice (g.alternative :: g.earlier).reverse

def close (g : OpenGroup) : Pattern :=
  match g.kind with
  | .plain => g.body
  | .ahead => .ahead g.body
  | .notAhead => .notAhead g.body

def add (g : OpenGroup) (p : Pattern) (repeatable : Bool) : OpenGroup :=
  { g with parts := ⟨p, repeatable⟩ :: g.parts }

end OpenGroup

/-- Put tokens together. The group on top is the innermost one, and the last stands for the whole.
-/
def assemble? (top : OpenGroup) (stack : List OpenGroup) : List Token → Option Pattern
  | [] => if stack.isEmpty then some top.body else none
  | token :: tokens =>
    match token with
    | .one k => assemble? (top.add (.one k) true) stack tokens
    | .anchor p => assemble? (top.add p false) stack tokens
    | .opening kind => assemble? { kind := kind } (top :: stack) tokens
    | .closing =>
      match stack with
      | [] => none
      | outer :: stack => assemble? (outer.add top.close true) stack tokens
    | .bar =>
      assemble? { top with earlier := top.alternative :: top.earlier, parts := [] } stack tokens
    | .repetition least most =>
      match top.parts with
      | ⟨p, true⟩ :: parts =>
        if most.any (· < least) then none
        else assemble? { top with parts := ⟨.many p least most, false⟩ :: parts } stack tokens
      | _ => none

/-- The pattern of a written one. -/
def parse? (source : String) (flags : Flags := {}) : Option Pattern :=
  (Token.all? flags source.toList).bind (assemble? { kind := .plain } [])

end Pattern

end SourceStyle
