/-
**Rounding.**

Every quotient that ends up in a stored value is rounded to the nearest whole number, a half going
up: cutting off instead would let averages sink over a long stream of scores.

* `divHalfUp` is the rounded quotient;
* `meanHalfUp` is the rounded mean of a list of bytes;
* `proportion` carries a value from one range to another, never past the end of the second.
-/

import Reputation.Numeric.Power

namespace Reputation

/-- The quotient of `num` by `den`, a half going up. A division by zero gives zero. -/
def divHalfUp (num den : Nat) : Nat :=
  if den = 0 then 0
  else if den - num % den ≤ num % den then num / den + 1
  else num / den

/-- The sum of some numbers. -/
def total : List Nat → Nat
  | [] => 0
  | value :: rest => value + total rest

/-- The mean of the values, a half going up, and none of an empty list. -/
def meanHalfUp (values : List UInt8) : Option UInt8 :=
  if values.isEmpty then none
  else some (UInt8.ofNat (min (divHalfUp (total (values.map UInt8.toNat)) values.length) 255))

/-- The largest 64-bit word. -/
def wordMax : Nat := 2 ^ 64 - 1

/-- The share of `outMax` that `value` is of `inMax`, at most `outMax`, and zero of an empty range.
The product stops at the largest 64-bit word. -/
def proportion (value inMax outMax : Nat) : Nat :=
  if inMax = 0 then 0
  else min (divHalfUp (min (value * outMax) wordMax) inMax) outMax

theorem proportion_le (value inMax outMax : Nat) : proportion value inMax outMax ≤ outMax := by
  unfold proportion
  split
  · exact Nat.zero_le _
  · exact Nat.min_le_right _ _

/-- The distance between two numbers. -/
def distance (first second : Nat) : Nat := max first second - min first second

end Reputation
