import SourceStyle.Decimal.Binary

/-!
# The shortest decimal that reads back

Of the decimals that are nearer to a double than to any other double, `shortest` gives one with the
fewest digits, and of those the nearest to the double. The grids of one to seventeen digits are
tried in turn, and on each the two neighbours of the double. All arithmetic is exact.
-/

namespace SourceStyle

/-- The number `digits * 10 ^ exponent`. -/
structure Decimal where
  digits : Nat
  exponent : Int
  deriving DecidableEq

namespace Decimal

/-- Whether `d` is below a fraction, or equal to it if `inclusive`. -/
def atMost (d : Decimal) (num den : Nat) (inclusive : Bool) : Bool :=
  let (l, r) := if 0 ≤ d.exponent then (d.digits * Nat.pow 10 d.exponent.toNat * den, num)
    else (d.digits * den, num * Nat.pow 10 (-d.exponent).toNat)
  if inclusive then l ≤ r else l < r

/-- Whether `d` is above a fraction, or equal to it if `inclusive`. -/
def atLeast (d : Decimal) (num den : Nat) (inclusive : Bool) : Bool :=
  !d.atMost num den (!inclusive)

/-- The least number of steps, up to `fuel`, after which `num * 10 ^ steps` reaches `den`. -/
def stepsToReach (num den : Nat) : Nat → Nat
  | 0 => 0
  | fuel + 1 => if den ≤ num then 0 else stepsToReach (num * 10) den fuel + 1

/-- The exponent of the leading digit of a positive fraction. -/
def leading (num den : Nat) : Int :=
  if den ≤ num then ((Nat.toDigits 10 (num / den)).length : Int) - 1
  else -(stepsToReach num den 400 : Int)

/-- Without trailing zeros. -/
def trim : Nat → Decimal → Decimal
  | 0, d => d
  | fuel + 1, d =>
    if d.digits ≠ 0 ∧ d.digits % 10 = 0 then trim fuel ⟨d.digits / 10, d.exponent + 1⟩ else d

/-- The ends of the interval of numbers that are nearest to a double, in quarters of its unit. A
power of two has the nearer neighbour below. -/
def halfway (b : Binary) : Nat × Nat :=
  let narrow := b.mantissa = Nat.pow 2 52 ∧ -1074 < b.exponent
  (4 * b.mantissa - (if narrow then 1 else 2), 4 * b.mantissa + 2)

/-- The better neighbour on a grid, if one lies in the interval. -/
def onGrid (b : Binary) (exponent : Int) : Option Decimal :=
  let (num, den) := b.fraction
  let (low, high) := halfway b
  let ends (n : Nat) : Nat × Nat := Binary.fraction ⟨false, n, b.exponent - 2⟩
  let inclusive := b.mantissa % 2 = 0
  let below : Nat := if 0 ≤ exponent then num / (den * Nat.pow 10 exponent.toNat)
    else num * Nat.pow 10 (-exponent).toNat / den
  let inside (d : Decimal) : Bool :=
    d.atLeast (ends low).1 (ends low).2 inclusive && d.atMost (ends high).1 (ends high).2 inclusive
  let lower : Decimal := ⟨below, exponent⟩
  let upper : Decimal := ⟨below + 1, exponent⟩
  -- the point halfway between the two, to see which is nearer
  let middle : Decimal := ⟨10 * below + 5, exponent - 1⟩
  match inside lower, inside upper with
  | true, true =>
    if middle.atMost num den false then some upper
    else if middle.atMost num den true then some (if below % 2 = 0 then lower else upper)
    else some lower
  | true, false => some lower
  | false, true => some upper
  | false, false => none

/-- The first hit on the grids from `n` digits on. -/
def search (b : Binary) (lead : Int) : Nat → Nat → Option Decimal
  | 0, _ => none
  | fuel + 1, n => (onGrid b (lead - n + 1)).or (search b lead fuel (n + 1))

/-- The magnitude of a double with the fewest digits. -/
def shortest (b : Binary) : Decimal :=
  if b.mantissa = 0 then ⟨0, 0⟩
  else
    let (num, den) := b.fraction
    trim 400 ((search b (leading num den) 17 1).getD ⟨0, 0⟩)

end Decimal

end SourceStyle
