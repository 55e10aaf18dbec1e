/-
**Fixed-point logarithms.**

`log2Fixed` is the base-two logarithm with sixteen fractional bits. The whole part is the position
of the leading bit. What is left is a mantissa in `[1, 2)`, held with thirty-two fractional bits:
squaring it doubles its logarithm, so each squaring that reaches two gives one more fractional bit
as a one.
-/

import Reputation.Numeric.Rounding

namespace Reputation

/-- The fractional bits of a fixed-point logarithm. -/
def logFractionBits : Nat := 16

/-- The natural logarithm of two, scaled by `2 ^ 16`. -/
def naturalLogOfTwo : Nat := 45426

/-- The next `bits` fractional bits of the logarithm of a mantissa in `[2 ^ 32, 2 ^ 33)`. -/
def logFraction : (bits mantissa : Nat) → Nat
  | 0, _ => 0
  | bits + 1, mantissa =>
    let squared := mantissa * mantissa / 2 ^ 32
    if 2 ^ 33 ≤ squared then 2 ^ bits + logFraction bits (squared / 2)
    else logFraction bits squared

/-- The base-two logarithm with sixteen fractional bits, rounded down; zero at zero. -/
def log2Fixed (value : Nat) : Nat :=
  if value = 0 then 0
  else value.log2 * 2 ^ logFractionBits +
    logFraction logFractionBits (value * 2 ^ 32 / 2 ^ value.log2)

/-- The base-two logarithm in hundredths, a half going up. -/
def log2Centi (value : Nat) : Nat := divHalfUp (log2Fixed value * 100) (2 ^ logFractionBits)

theorem logFraction_lt (bits mantissa : Nat) : logFraction bits mantissa < 2 ^ bits := by
  induction bits generalizing mantissa with
  | zero => simp [logFraction]
  | succ bits ih =>
    have whole : 2 ^ (bits + 1) = 2 ^ bits + 2 ^ bits := by rw [Nat.pow_succ]; omega
    simp only [logFraction]
    split
    · have := ih (mantissa * mantissa / 2 ^ 32 / 2); omega
    · have := ih (mantissa * mantissa / 2 ^ 32); omega

end Reputation
