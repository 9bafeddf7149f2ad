import SourceStyle.Text

/-!
# Arguments

Command-line arguments are options and operands. An option is a word with one or two dashes. A long
option takes its value after an equals sign or from the next argument, a short one also from the
rest of its own word; several short options can share a word. Two dashes on their own end the
options.

What an option is about is its key, of a type `κ` that the command chooses.
-/

namespace SourceStyle

namespace Arguments

/-- The value of an option: a switch that is turned on or off, or a text. -/
inductive Value where
  | switch (on : Bool)
  | text (s : String)
  deriving DecidableEq

/-- An option under one of its spellings. -/
structure Flag (κ : Type) where
  spelling : String
  /-- Several spellings can have one key. -/
  key : κ
  /-- What the spelling turns its switch to, or nothing if it takes a text. -/
  fixed : Option Bool := none

/-- The values of the options and the operands, each in the order in which they are given. -/
structure Parsed (κ : Type) where
  values : List (κ × Value) := []
  operands : List String := []

/-- How arguments break the rules. -/
inductive Misuse where
  | unknownOption
  | missingValue
  | unwantedValue
  deriving DecidableEq

/-- What a word of options does: it gives values, and may want the next argument for one more. -/
structure Effect (κ : Type) where
  values : List (κ × Value) := []
  wants : Option κ := none

variable {κ : Type}

/-- The options in a word of short options without its dash. -/
def shortEffect (flags : List (Flag κ)) : Text → Except Misuse (Effect κ)
  | [] => .ok {}
  | c :: rest =>
    match flags.find? (·.spelling.toList == ['-', c]) with
    | none => .error .unknownOption
    | some f =>
      match f.fixed with
      | some on =>
        (shortEffect flags rest).map fun e => { e with values := (f.key, .switch on) :: e.values }
      | none =>
        if rest.isEmpty then .ok { wants := some f.key }
        else .ok { values := [(f.key, .text (String.ofList rest))] }

/-- The option of a long word, with the value after its equals sign if it has one. -/
def longEffect (flags : List (Flag κ)) (w : Text) : Except Misuse (Effect κ) :=
  let name := w.takeWhile (· ≠ '=')
  match flags.find? (·.spelling.toList == name) with
  | none => .error .unknownOption
  | some f =>
    match f.fixed, w.drop name.length with
    | some on, [] => .ok { values := [(f.key, .switch on)] }
    | some _, _ :: _ => .error .unwantedValue
    | none, [] => .ok { wants := some f.key }
    | none, _ :: value => .ok { values := [(f.key, .text (String.ofList value))] }

def effect (flags : List (Flag κ)) (w : Text) : Except Misuse (Effect κ) :=
  if ['-', '-'].isPrefixOf w then longEffect flags w else shortEffect flags w.tail

/-- Whether a word holds options. A dash on its own is an operand. -/
def isOption (w : Text) : Bool := w.length > 1 && w.head? == some '-'

/-- Sort arguments into values and operands, after those of `done`; the first one may be wanted as a
value. Where options may not follow operands, the first operand ends the options. -/
def parseFrom (flags : List (Flag κ)) (mixed : Bool) (done : Parsed κ) :
    Option κ → List String → Except Misuse (Parsed κ)
  | some _, [] => .error .missingValue
  | none, [] => .ok done
  | some key, a :: args =>
    parseFrom flags mixed { done with values := done.values ++ [(key, .text a)] } none args
  | none, a :: args =>
    if a = "--" then .ok { done with operands := done.operands ++ args }
    else if isOption a.toList then
      match effect flags a.toList with
      | .error e => .error e
      | .ok e => parseFrom flags mixed { done with values := done.values ++ e.values } e.wants args
    else if mixed then
      parseFrom flags mixed { done with operands := done.operands ++ [a] } none args
    else .ok { done with operands := done.operands ++ a :: args }

def parse (flags : List (Flag κ)) (mixed : Bool) (args : List String) : Except Misuse (Parsed κ) :=
  parseFrom flags mixed {} none args

namespace Parsed

variable [DecidableEq κ]

/-- The values of an option. -/
def all (p : Parsed κ) (key : κ) : List Value :=
  p.values.filterMap fun (k, v) => if k = key then some v else none

/-- The texts that an option is given. -/
def texts (p : Parsed κ) (key : κ) : List String :=
  (p.all key).filterMap fun
    | .text s => some s
    | .switch _ => none

/-- The text of an option, the last one if it is given more than once. -/
def text? (p : Parsed κ) (key : κ) : Option String := (p.texts key).getLast?

/-- Where a switch stands in the end. -/
def isOn (p : Parsed κ) (key : κ) (default : Bool := false) : Bool :=
  match (p.all key).getLast? with
  | some (.switch on) => on
  | _ => default

end Parsed

end Arguments

end SourceStyle
