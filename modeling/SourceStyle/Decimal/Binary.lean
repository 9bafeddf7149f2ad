/-!
# Binary fractions

A finite double is a whole number times a power of two. This is where its bits are taken apart.
-/

namespace SourceStyle

/-- The number `mantissa * 2 ^ exponent`, or its negative. -/
structure Binary where
  negative : Bool
  mantissa : Nat
  exponent : Int

namespace Binary

inductive Value where
  | finite (b : Binary)
  | infinite (negative : Bool)
  | notANumber

/-- The number that 64 bits stand for: sign, eleven bits of exponent, 52 bits of mantissa. -/
def ofBits (bits : Nat) : Value :=
  let negative : Bool := bits / Nat.pow 2 63 % 2 = 1
  let exponent : Nat := bits / Nat.pow 2 52 % Nat.pow 2 11
  let mantissa : Nat := bits % Nat.pow 2 52
  if exponent = 2047 then
    if mantissa = 0 then .infinite negative else .notANumber
  else if exponent = 0 then .finite ⟨negative, mantissa, -1074⟩
  else .finite ⟨negative, Nat.pow 2 52 + mantissa, exponent - 1075⟩

def ofFloat (x : Float) : Value := ofBits x.toBits.toNat

/-- The magnitude as a fraction. -/
def fraction (b : Binary) : Nat × Nat :=
  if 0 ≤ b.exponent then (b.mantissa * Nat.pow 2 b.exponent.toNat, 1)
  else (b.mantissa, Nat.pow 2 (-b.exponent).toNat)

end Binary

end SourceStyle
