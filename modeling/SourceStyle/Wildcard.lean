import SourceStyle.Pattern

/-!
# Wildcards

Patterns for file names: a star for any characters, a question mark for one, a class in brackets for
one of some characters, or with an exclamation mark for one of the others. A bracket that is never
closed stands for itself, and a range that runs backwards is left out of its class.
-/

namespace SourceStyle

inductive Wildcard where
  | star
  | one (k : CharClass)

namespace Wildcard

def anyChar : Wildcard := .one ⟨[], true, false⟩

/-- What stands between a bracket and the one that closes it, and what follows. The first character
of a class never closes it. -/
def classBody? (t : Text) : Option (Text × Text) :=
  let marked := match t with
    | '!' :: ']' :: _ => 2
    | '!' :: _ => 1
    | ']' :: _ => 1
    | _ => 0
  match (t.drop marked).span (· ≠ ']') with
  | (body, _ :: rest) => some (t.take marked ++ body, rest)
  | (_, []) => none

/-- Cut a class at the hyphens that make ranges, `taken` being the characters since the last cut,
the latest first. A hyphen makes a range when something follows it and the characters that `free`
counts have passed: the first of the class, and after a range its end and one more. -/
def chunks (taken : Text) (free : Nat) : Text → List Text
  | [] => [taken.reverse]
  | c :: t =>
    if c = '-' ∧ free = 0 ∧ t ≠ [] then taken.reverse :: chunks [] 2 t
    else chunks (c :: taken) (free - 1) t

/-- Leave out the ranges that run backwards, the last one first. -/
def dropBackwards : List Text → List Text
  | [] => []
  | c :: cs =>
    match dropBackwards cs with
    | [] => [c]
    | d :: ds =>
      match c.getLast?, d.head? with
      | some a, some b =>
        if b.toNat < a.toNat then (c.dropLast ++ d.tail) :: ds else c :: d :: ds
      | _, _ => c :: d :: ds

/-- A character of a class, or the hyphen of a range. -/
inductive Mark where
  | char (c : Char)
  | range

def marks : List Text → List Mark
  | [] => []
  | [c] => c.map .char
  | c :: cs => c.map .char ++ .range :: marks cs

def items : List Mark → List CharItem
  | [] => []
  | .char a :: .range :: .char b :: ms => .range a b :: items ms
  | .char a :: ms => .range a a :: items ms
  | .range :: ms => .range '-' '-' :: items ms

/-- The class of what stands in brackets. -/
def ofClassBody (body : Text) : Wildcard :=
  match marks (dropBackwards (chunks [] (if body.head? = some '!' then 2 else 1) body)) with
  | .char '!' :: ms => .one ⟨items ms, true, false⟩
  | ms => .one ⟨items ms, false, false⟩

def parse (t : Text) : List Wildcard :=
  match t with
  | [] => []
  | '*' :: t => .star :: parse t
  | '?' :: t => anyChar :: parse t
  | '[' :: t =>
    match classBody? t with
    | some (body, rest) =>
      if rest.length ≤ t.length then ofClassBody body :: parse rest else []
    | none => .one ⟨[.range '[' '['], false, false⟩ :: parse t
  | c :: t => .one ⟨[.range c c], false, false⟩ :: parse t
termination_by t.length

/-- The ends of a text, the text itself first. -/
def suffixes : Text → List Text
  | [] => [[]]
  | c :: t => (c :: t) :: suffixes t

/-- Whether wildcards fit a whole text. -/
def fits : List Wildcard → Text → Bool
  | [], t => t.isEmpty
  | .star :: ws, t => (suffixes t).any (fits ws)
  | .one _ :: _, [] => false
  | .one k :: ws, c :: t => k.accepts c && fits ws t

end Wildcard

end SourceStyle
