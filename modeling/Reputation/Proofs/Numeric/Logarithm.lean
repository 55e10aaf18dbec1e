/-
**Logarithms are monotone.**

The logarithm of a number is the position of its leading bit, followed by the bits that its mantissa
gives turn by turn. Of two numbers with the same leading bit the higher one has the higher mantissa,
and a turn in which both give the same bit keeps that order: the first bit in which the two
logarithms differ is a one for the higher number. It outweighs all the bits that are left.

* `logBit`, `nextMantissa`: one turn of the squaring; `logFraction_succ`: what it adds.
* `mantissaOf`, `log2Fixed_eq`: the mantissa of a number, and its logarithm by that.
* `log2Fixed_lt`: the logarithm of a word has at most six bits before its fraction.
* `leading_le`: a leading bit outweighs the bits that follow.
* `logFraction_mono`: the fractional bits are monotone in the mantissa.
* **`log2Fixed_mono`**, `log2Centi_mono`: the logarithm is monotone.
-/

import Mathlib.Data.Nat.Log
import Reputation.Numeric.Logarithm
import Reputation.Proofs.Numeric.Rounding

namespace Reputation

/-! ### The turns of the squaring -/

/-- The square of a mantissa, held like a mantissa. -/
def squared (mantissa : Nat) : Nat := mantissa * mantissa / 2 ^ 32

/-- The fractional bit that a mantissa gives: a one if its square reaches two. -/
def logBit (mantissa : Nat) : Nat := if 2 ^ 33 ≤ squared mantissa then 1 else 0

/-- The mantissa that is squared next. -/
def nextMantissa (mantissa : Nat) : Nat :=
  if 2 ^ 33 ≤ squared mantissa then squared mantissa / 2 else squared mantissa

/-- The mantissa of a number, by which its logarithm begins. -/
def mantissaOf (value : Nat) : Nat := value * 2 ^ 32 / 2 ^ value.log2

theorem logFraction_succ (bits mantissa : Nat) :
    logFraction (bits + 1) mantissa =
      logBit mantissa * 2 ^ bits + logFraction bits (nextMantissa mantissa) := by
  show (if 2 ^ 33 ≤ squared mantissa then 2 ^ bits + logFraction bits (squared mantissa / 2)
    else logFraction bits (squared mantissa)) = _
  unfold logBit nextMantissa
  split
  · rw [Nat.one_mul]
  · rw [Nat.zero_mul, Nat.zero_add]

theorem log2Fixed_eq {value : Nat} (some : value ≠ 0) :
    log2Fixed value =
      value.log2 * 2 ^ logFractionBits + logFraction logFractionBits (mantissaOf value) :=
  if_neg some

/-! ### Bounds -/

theorem log2_le_of_word {value : Nat} (word : value < 2 ^ 64) (some : value ≠ 0) :
    value.log2 ≤ 63 :=
  Nat.le_of_lt_succ ((Nat.log2_lt some).mpr word)

theorem mantissaOf_lt (value : Nat) : mantissaOf value < 2 ^ 33 := by
  rw [mantissaOf, Nat.div_lt_iff_lt_mul (Nat.two_pow_pos _)]
  have above : value < 2 ^ (value.log2 + 1) := Nat.lt_log2_self
  rw [Nat.pow_succ] at above
  omega

theorem log2Fixed_lt {value : Nat} (word : value < 2 ^ 64) : log2Fixed value < 2 ^ 22 := by
  rcases eq_or_ne value 0 with rfl | some
  · decide
  · have whole := log2_le_of_word word some
    have low := logFraction_lt 16 (mantissaOf value)
    rw [log2Fixed_eq some]
    show value.log2 * 2 ^ 16 + logFraction 16 _ < _
    omega

/-! ### Order -/

/-- **What leads decides**: a higher leading part outweighs all the bits that follow, and if the
leading parts agree, what follows is compared. -/
theorem leading_le {bits high higher low other : Nat} (le : high ≤ higher) (few : low < 2 ^ bits)
    (rest : high = higher → low ≤ other) :
    high * 2 ^ bits + low ≤ higher * 2 ^ bits + other := by
  rcases Nat.lt_or_eq_of_le le with more | same
  · have bit := Nat.mul_le_mul_right (2 ^ bits) (Nat.succ_le_of_lt more)
    rw [Nat.succ_mul] at bit
    omega
  · rw [same]
    exact Nat.add_le_add_left (rest same) _

theorem logFraction_mono (bits : Nat) {mantissa higher : Nat} (le : mantissa ≤ higher) :
    logFraction bits mantissa ≤ logFraction bits higher := by
  induction bits generalizing mantissa higher with
  | zero => exact Nat.le_refl _
  | succ bits ih =>
    have squares : squared mantissa ≤ squared higher :=
      Nat.div_le_div_right (Nat.mul_le_mul le le)
    have given : logBit mantissa ≤ logBit higher := by
      unfold logBit
      split <;> split <;> omega
    have onward (same : logBit mantissa = logBit higher) :
        nextMantissa mantissa ≤ nextMantissa higher := by
      grind [logBit, nextMantissa]
    rw [logFraction_succ, logFraction_succ]
    exact leading_le given (logFraction_lt _ _) fun same => ih (onward same)

/-- **The logarithm is monotone.** -/
theorem log2Fixed_mono {value higher : Nat} (le : value ≤ higher) :
    log2Fixed value ≤ log2Fixed higher := by
  rcases eq_or_ne value 0 with rfl | some
  · exact Nat.zero_le _
  · have leading : value.log2 ≤ higher.log2 := by
      rw [Nat.log2_eq_log_two, Nat.log2_eq_log_two]
      exact Nat.log_mono_right le
    have onward (same : value.log2 = higher.log2) : mantissaOf value ≤ mantissaOf higher := by
      rw [mantissaOf, mantissaOf, same]
      exact Nat.div_le_div_right (Nat.mul_le_mul_right _ le)
    rw [log2Fixed_eq some, log2Fixed_eq (by omega)]
    exact leading_le leading (logFraction_lt _ _) fun same => logFraction_mono _ (onward same)

/-- **The logarithm in hundredths is monotone.** -/
theorem log2Centi_mono {value higher : Nat} (le : value ≤ higher) :
    log2Centi value ≤ log2Centi higher :=
  divHalfUp_mono _ (Nat.mul_le_mul_right 100 (log2Fixed_mono le))

/-- The logarithm of a word is at most sixty-four. -/
theorem log2Centi_le {value : Nat} (word : value < 2 ^ 64) : log2Centi value ≤ 6400 := by
  have low := log2Fixed_lt word
  refine divHalfUp_le ?_
  show log2Fixed value * 100 ≤ 2 ^ 16 * 6400
  omega

end Reputation
