import SourceStyle.Decimal.Integer
import SourceStyle.Json
import SourceStyle.Text

/-!
# Reading JSON

Each reader takes a value off the front of a text and gives the rest. A nested value is at least one
character shorter than what holds it, so the length of the text bounds the depth of the reading. A
reader may be told to go down a number of levels only.
-/

namespace SourceStyle

namespace Json

def isBlankChar (c : Char) : Bool := c == ' ' || c == '\t' || c == '\n' || c == '\r'

def skipBlanks (t : Text) : Text := t.dropWhile isBlankChar

def hexValue? (c : Char) : Option Nat :=
  if '0' ≤ c ∧ c ≤ '9' then some (c.toNat - '0'.toNat)
  else if 'a' ≤ c ∧ c ≤ 'f' then some (c.toNat - 'a'.toNat + 10)
  else if 'A' ≤ c ∧ c ≤ 'F' then some (c.toNat - 'A'.toNat + 10)
  else none

/-- The number of four hexadecimal digits. -/
def unit? (a b c d : Char) : Option Nat := do
  return (((← hexValue? a) * 16 + (← hexValue? b)) * 16 + (← hexValue? c)) * 16 + (← hexValue? d)

def shortEscape? : Char → Option Char
  | '"' => some '"'
  | '\\' => some '\\'
  | '/' => some '/'
  | 'b' => some '\x08'
  | 'f' => some '\x0c'
  | 'n' => some '\n'
  | 'r' => some '\r'
  | 't' => some '\t'
  | _ => none

/-- The character of two UTF-16 units, a high and a low one. -/
def pair? (high low : Nat) : Option Char :=
  if 0xd800 ≤ high ∧ high < 0xdc00 ∧ 0xdc00 ≤ low ∧ low < 0xe000 then
    some (Char.ofNat (0x10000 + (high - 0xd800) * 0x400 + (low - 0xdc00)))
  else none

/-- The character of one UTF-16 unit. Half of a pair is no character and is read as the character
that stands for one that cannot be shown. -/
def single (unit : Nat) : Char :=
  if unit < 0xd800 ∨ 0xe000 ≤ unit then Char.ofNat unit else '\ufffd'

/-- The rest of a string after its opening quote, `done` being what was read, last character first.
-/
def readString (done : List Char) : Text → Option (String × Text)
  | [] => none
  | '"' :: t => some (String.ofList done.reverse, t)
  | '\\' :: 'u' :: a :: b :: c :: d :: '\\' :: 'u' :: e :: f :: g :: h :: t =>
    match unit? a b c d, unit? e f g h with
    | some u, some v =>
      match pair? u v with
      | some x => readString (x :: done) t
      | none => readString (single u :: done) ('\\' :: 'u' :: e :: f :: g :: h :: t)
    | _, _ => none
  | '\\' :: 'u' :: a :: b :: c :: d :: t =>
    match unit? a b c d with
    | some u => readString (single u :: done) t
    | none => none
  | '\\' :: c :: t => (shortEscape? c).bind fun x => readString (x :: done) t
  | c :: t => if c.toNat < 32 ∨ c = '\\' then none else readString (c :: done) t
termination_by t => t.length

def isDigit (c : Char) : Bool := '0' ≤ c && c ≤ '9'

def digitsValue (ds : List Char) : Nat := ds.foldl (fun n c => 10 * n + (c.toNat - '0'.toNat)) 0

/-- The digits after a point, which count only if there are any. -/
def readFraction : Text → List Char × Text
  | '.' :: t =>
    if (t.takeWhile isDigit).isEmpty then ([], '.' :: t)
    else (t.takeWhile isDigit, t.dropWhile isDigit)
  | t => ([], t)

/-- An exponent, which counts only if it has digits. -/
def readExponent (t : Text) : Option Int × Text :=
  match t with
  | e :: s =>
    if e = 'e' ∨ e = 'E' then
      let (negative, ds) := match s with
        | '-' :: r => (true, r)
        | '+' :: r => (false, r)
        | r => (false, r)
      let digits := ds.takeWhile isDigit
      if digits.isEmpty then (none, t)
      else
        let n : Int := digitsValue digits
        (some (if negative then -n else n), ds.dropWhile isDigit)
    else (none, t)
  | [] => (none, t)

/-- A number without its sign. One without point and exponent is whole. -/
def readNumber (negative : Bool) (t : Text) : Option (Json × Text) :=
  let whole := match t with
    | '0' :: _ => ['0']
    | _ => t.takeWhile isDigit
  if whole.isEmpty then none
  else
    let (fraction, rest) := readFraction (t.drop whole.length)
    let (exponent, rest) := readExponent rest
    if fraction.isEmpty ∧ exponent.isNone then
      let n : Int := digitsValue whole
      if Decimal.mostDigits < whole.length then none
      else some (int (if negative then -n else n), rest)
    else
      let x := Decimal.toFloat ⟨digitsValue (whole ++ fraction), exponent.getD 0 - fraction.length⟩
      some (float (if negative then -x else x), rest)

/-- A value that is one word. -/
def readWord (t : Text) : Option (Json × Text) :=
  [("null", null), ("true", bool true), ("false", bool false), ("NaN", float (0.0 / 0.0)),
    ("Infinity", float (1.0 / 0.0)), ("-Infinity", float (-1.0 / 0.0))].findSome? fun (w, v) =>
      if w.toList.isPrefixOf t then some (v, t.drop w.length) else none

/-- Why a text is not read as a value. -/
inductive Fault where
  | malformed
  /-- The values are nested more deeply than the reader goes. -/
  | tooDeep
  deriving DecidableEq

mutual

/-- A value at the front of a text, with `levels` of values inside each other. -/
def readValue : Nat → Nat → Text → Except Fault (Json × Text)
  | 0, _, _ => .error .malformed
  | fuel + 1, levels, t =>
    match t with
    | '"' :: r =>
      match readString [] r with
      | some (s, rest) => .ok (str s, rest)
      | none => .error .malformed
    | '[' :: r =>
      match levels, skipBlanks r with
      | 0, _ => .error .tooDeep
      | _ + 1, ']' :: rest => .ok (arr [], rest)
      | levels + 1, r => readItems fuel levels [] r
    | '\x7b' :: r =>
      match levels, skipBlanks r with
      | 0, _ => .error .tooDeep
      | _ + 1, '\x7d' :: rest => .ok (obj [], rest)
      | levels + 1, r => readMembers fuel levels [] r
    | t =>
      let number := match t with
        | '-' :: r => readNumber true r
        | r => readNumber false r
      match (readWord t).or number with
      | some found => .ok found
      | none => .error .malformed

/-- The items of a list up to its end, `done` being those before, last item first. -/
def readItems : Nat → Nat → List Json → Text → Except Fault (Json × Text)
  | 0, _, _, _ => .error .malformed
  | fuel + 1, levels, done, t =>
    match readValue fuel levels t with
    | .error e => .error e
    | .ok (v, rest) =>
      match skipBlanks rest with
      | ',' :: r => readItems fuel levels (v :: done) (skipBlanks r)
      | ']' :: r => .ok (arr (v :: done).reverse, r)
      | _ => .error .malformed

/-- The members of an object up to its end, `done` being those before, last member first. -/
def readMembers : Nat → Nat → List (String × Json) → Text → Except Fault (Json × Text)
  | 0, _, _, _ => .error .malformed
  | fuel + 1, levels, done, t =>
    match t with
    | '"' :: r =>
      match readString [] r with
      | none => .error .malformed
      | some (k, rest) =>
        match skipBlanks rest with
        | ':' :: r =>
          match readValue fuel levels (skipBlanks r) with
          | .error e => .error e
          | .ok (v, rest) =>
            match skipBlanks rest with
            | ',' :: r => readMembers fuel levels ((k, v) :: done) (skipBlanks r)
            | '\x7d' :: r => .ok (ofMembers ((k, v) :: done).reverse, r)
            | _ => .error .malformed
        | _ => .error .malformed
    | _ => .error .malformed

end

/-- The value of a text that holds one value and blanks around it. -/
def parse (levels : Nat) (t : Text) : Except Fault Json :=
  match readValue (t.length + 1) levels (skipBlanks t) with
  | .ok (v, rest) => if (skipBlanks rest).isEmpty then .ok v else .error .malformed
  | .error e => .error e

/-- The value of a text, however deep it is. -/
def parse? (t : Text) : Option Json := (parse t.length t).toOption

end Json

end SourceStyle
