import SourceStyle.Decimal.Shortest

/-!
# Numbers in words

How a number is written: with the fewest digits that read back, or with a fixed number of places.
And how a decimal is read.
-/

namespace SourceStyle

namespace Decimal

/-- The decisions of a number format. -/
structure Style where
  /-- Numbers whose leading digit has an exponent from `positionalFrom` on and below
  `positionalBelow` are written without exponent. -/
  positionalFrom : Int
  positionalBelow : Int
  exponentMark : String
  exponentWidth : Nat
  infinite : String
  notANumber : String

def sign (negative : Bool) : String := if negative then "-" else ""

def zeros (n : Nat) : String := String.ofList (List.replicate n '0')

/-- A number in decimal digits, at least `width` of them. -/
def padded (width n : Nat) : String :=
  let digits := toString n
  zeros (width - digits.length) ++ digits

/-- Digits with the point after the first `whole` of them, zeros filling up on either side. -/
def positional (digits : List Char) (whole : Int) : String :=
  if whole ≤ 0 then "0." ++ zeros (-whole).toNat ++ String.ofList digits
  else if digits.length ≤ whole then
    String.ofList digits ++ zeros (whole - digits.length).toNat ++ ".0"
  else String.ofList (digits.take whole.toNat) ++ "." ++ String.ofList (digits.drop whole.toNat)

def Style.exponent (s : Style) (e : Int) : String :=
  s.exponentMark ++ (if e < 0 then "-" else "+") ++ padded s.exponentWidth e.natAbs

/-- One digit before the point, the others after it, and the exponent. -/
def Style.scientific (s : Style) (digits : List Char) (e : Int) : String :=
  match digits with
  | [] => ""
  | d :: [] => String.ofList [d] ++ s.exponent e
  | d :: ds => String.ofList (d :: '.' :: ds) ++ s.exponent e

def Style.decimal (s : Style) (d : Decimal) : String :=
  let digits := (toString d.digits).toList
  let lead : Int := d.exponent + digits.length - 1
  if d.digits = 0 then "0.0"
  else if s.positionalFrom ≤ lead ∧ lead < s.positionalBelow then positional digits (lead + 1)
  else s.scientific digits lead

/-- A double with the fewest digits that read back. -/
def Style.number (s : Style) (x : Float) : String :=
  match Binary.ofFloat x with
  | .finite b => sign b.negative ++ s.decimal (shortest b)
  | .infinite negative => sign negative ++ s.infinite
  | .notANumber => s.notANumber

/-- The nearest whole number to a fraction, an exact half going to the even one. -/
def roundDiv (num den : Nat) : Nat :=
  let q := num / den
  let r := num % den
  if 2 * r < den then q else if den < 2 * r then q + 1 else if q % 2 = 0 then q else q + 1

/-- A double with one place, its exact value rounded. -/
def Style.onePlace (s : Style) (x : Float) : String :=
  match Binary.ofFloat x with
  | .finite b =>
    let (num, den) := b.fraction
    let tenths := roundDiv (10 * num) den
    s!"{sign b.negative}{tenths / 10}.{tenths % 10}"
  | .infinite negative => sign negative ++ s.infinite
  | .notANumber => s.notANumber

/-- The double nearest to a decimal. Exponents far out of range need no power of ten. -/
def toFloat (d : Decimal) : Float :=
  let lead : Int := d.exponent + (Nat.toDigits 10 d.digits).length
  if d.digits = 0 ∨ lead < -400 then 0.0
  else if 400 < lead then 1.0 / 0.0
  else if 0 ≤ d.exponent then Float.ofScientific d.digits false d.exponent.toNat
  else Float.ofScientific d.digits true (-d.exponent).toNat

end Decimal

end SourceStyle
