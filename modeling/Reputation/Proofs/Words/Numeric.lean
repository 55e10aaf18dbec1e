/-
**Rounding, averages and logarithms stay in their words.**

* `divHalfUpChecked`, `meanHalfUpChecked`, `proportionChecked`: rounding.
* `blendChecked`: a step of an average.
* `log2FixedChecked`, `log2CentiChecked`: logarithms, by squaring in words of 128 bits.

Each is the function of which it carries the name, word by word, and each comes with a theorem that
there is no fault.
-/

import Reputation.Proofs.Numeric.Blend
import Reputation.Proofs.Numeric.Logarithm
import Reputation.Proofs.Numeric.Mean
import Reputation.Proofs.Words.Checked

namespace Reputation

open Checked

/-! ### Rounding -/

/-- The quotient of `num` by `den`, a half going up. -/
def divHalfUpChecked (num den : Nat) : Checked Nat :=
  if den = 0 then return 0
  else do
    let quotient ← div num den
    let remainder ← rem num den
    let rest ← sub den remainder
    if rest ≤ remainder then add 64 quotient 1 else return quotient

theorem divHalfUpChecked_eq {num : Nat} (word : num < 2 ^ 64) (den : Nat) :
    divHalfUpChecked num den = .ok (divHalfUp num den) := by
  unfold divHalfUpChecked divHalfUp
  split
  · rfl
  · rename_i divides
    have positive : 0 < den := Nat.pos_of_ne_zero divides
    have below := Nat.mod_lt num positive
    rw [div_eq positive, ok_bind, rem_eq positive, ok_bind, sub_eq (Nat.le_of_lt below), ok_bind]
    split
    · -- A remainder that is rounded up needs a divisor of at least two.
      have halved : num / den ≤ num / 2 := Nat.div_le_div_left (by omega) (by decide)
      rw [add_eq (by omega)]
    · rfl

/-- The sum of some numbers, added up from the first on. -/
def sumChecked (values : List Nat) : Checked Nat := values.foldlM (add 64) 0

theorem foldlM_add_eq {start : Nat} {values : List Nat} (fits : start + total values < 2 ^ 64) :
    values.foldlM (add 64) start = .ok (start + total values) := by
  induction values generalizing start with
  | nil => rfl
  | cons value rest ih =>
    rw [total] at fits ⊢
    rw [List.foldlM_cons, add_eq (by omega), ok_bind, ih (by omega), Nat.add_assoc]

theorem sumChecked_eq {values : List Nat} (fits : total values < 2 ^ 64) :
    sumChecked values = .ok (total values) := by
  rw [sumChecked, foldlM_add_eq (by omega), Nat.zero_add]

/-- The mean of the values, a half going up. -/
def meanHalfUpChecked (values : List UInt8) : Checked (Option UInt8) :=
  if values.isEmpty then return none
  else do
    let sum ← sumChecked (values.map UInt8.toNat)
    let length ← narrow 64 values.length
    let mean ← divHalfUpChecked sum length
    let mean ← byte (min mean 255)
    return some mean

theorem meanHalfUpChecked_eq {values : List UInt8} (few : values.length < 2 ^ 56) :
    meanHalfUpChecked values = .ok (meanHalfUp values) := by
  have sum : total (values.map UInt8.toNat) < 2 ^ 64 := by
    have bounded := byteTotal_le_length values
    rw [byteTotal] at bounded
    omega
  unfold meanHalfUpChecked meanHalfUp
  split
  · rfl
  · rw [sumChecked_eq sum, ok_bind, narrow_eq (by omega), ok_bind, divHalfUpChecked_eq sum, ok_bind,
      byte_min (by decide), ok_bind]
    rfl

/-- The share of `outMax` that `value` is of `inMax`. The product stops at the largest word. -/
def proportionChecked (value inMax outMax : Nat) : Checked Nat :=
  if inMax = 0 then return 0
  else do
    let scaled ← divHalfUpChecked (saturate 64 (value * outMax)) inMax
    return min scaled outMax

theorem proportionChecked_eq (value inMax outMax : Nat) :
    proportionChecked value inMax outMax = .ok (proportion value inMax outMax) := by
  unfold proportionChecked proportion
  split
  · rfl
  · rw [divHalfUpChecked_eq (saturate_lt 64 _), ok_bind]
    rfl

/-! ### Averages -/

/-- The step of an average held in a word of 32 bits. -/
def blendChecked (old target alpha : Nat) : Checked Nat := do
  let drawn ← mul 64 (min alpha basisPoints) target
  let stay ← sub basisPoints (min alpha basisPoints)
  let kept ← mul 64 stay old
  let sum ← add 64 drawn kept
  let rounded ← divHalfUpChecked sum basisPoints
  let next ← narrow 32 rounded
  if next = old ∧ old ≠ target then
    if old < target then add 32 old 1 else sub old 1
  else return next

theorem blendChecked_eq {old target : Nat} (start : old < 2 ^ 32) (aim : target < 2 ^ 32)
    (alpha : Nat) : blendChecked old target alpha = .ok (blend old target alpha) := by
  have share : min alpha basisPoints ≤ basisPoints := Nat.min_le_right _ _
  have drawn : min alpha basisPoints * target ≤ basisPoints * (2 ^ 32 - 1) :=
    Nat.mul_le_mul share (by omega)
  have kept : (basisPoints - min alpha basisPoints) * old ≤ basisPoints * (2 ^ 32 - 1) :=
    Nat.mul_le_mul (Nat.sub_le _ _) (by omega)
  have mixed : mixture old target alpha ≤ 2 ^ 32 - 1 := mixture_le (by omega) (by omega) alpha
  have whole : basisPoints = 10000 := rfl
  unfold blendChecked
  rw [mul_eq (by omega), ok_bind, sub_eq share, ok_bind, mul_eq (by omega), ok_bind,
    add_eq (by omega), ok_bind, divHalfUpChecked_eq (by omega), ok_bind]
  show (narrow 32 (mixture old target alpha) >>= _) = _
  rw [narrow_eq (by omega), ok_bind, blend_eq]
  split
  · split
    · rw [add_eq (by omega)]
    · rw [sub_eq (by omega)]
  · rfl

/-! ### Logarithms -/

/-- The zeros that lead a number in a word of the given number of bits. -/
def leadingZerosIn (bits value : Nat) : Nat := if value = 0 then bits else bits - 1 - value.log2

/-- The next `bits` fractional bits of the logarithm of a mantissa, set in a fraction. -/
def logFractionChecked : (bits mantissa fraction : Nat) → Checked Nat
  | 0, _, fraction => return fraction
  | bits + 1, mantissa, fraction => do
    let product ← mul 128 mantissa mantissa
    let squared ← shr 128 product 32
    let two ← shl 128 1 33
    if two ≤ squared then
      let halved ← shr 128 squared 1
      let bit ← shl 32 1 bits
      logFractionChecked bits halved (fraction ||| bit)
    else logFractionChecked bits squared fraction

theorem two_pow_succ_mul (bits high : Nat) : 2 ^ (bits + 1) * high = 2 ^ bits * (2 * high) := by
  rw [Nat.pow_succ, Nat.mul_assoc]

theorem or_two_pow (bits high : Nat) :
    2 ^ (bits + 1) * high ||| 2 ^ bits = 2 ^ (bits + 1) * high + 2 ^ bits :=
  (Nat.two_pow_add_eq_or_of_lt (Nat.pow_lt_pow_right (by decide) (Nat.lt_succ_self bits)) high).symm

/-- **The bits of a logarithm.** The mantissa stays below two, and each bit that is set stands below
those that are set already. -/
theorem logFractionChecked_eq {bits mantissa : Nat} (few : bits ≤ 16) (below : mantissa < 2 ^ 33)
    (high : Nat) :
    logFractionChecked bits mantissa (2 ^ bits * high) =
      .ok (2 ^ bits * high + logFraction bits mantissa) := by
  induction bits generalizing mantissa high with
  | zero => rfl
  | succ bits ih =>
    have product : mantissa * mantissa ≤ (2 ^ 33 - 1) * (2 ^ 33 - 1) :=
      Nat.mul_le_mul (by omega) (by omega)
    have bit : 1 * 2 ^ bits < 2 ^ 32 := by
      rw [Nat.one_mul]
      exact Nat.pow_lt_pow_right (by decide) (by omega)
    have onward {next : Nat} (below : next < 2 ^ 33) (high : Nat) :=
      ih (Nat.le_of_succ_le few) below high
    rw [logFractionChecked, mul_eq (by omega), ok_bind, shr_eq (by decide), ok_bind,
      shl_eq (by decide) (by decide), ok_bind, logFraction, Nat.one_mul]
    split
    · -- The fraction so far is a multiple of twice the bit, so setting the bit adds it.
      have marked : 2 ^ (bits + 1) * high + 2 ^ bits = 2 ^ bits * (2 * high + 1) := by
        rw [two_pow_succ_mul, Nat.mul_add, Nat.mul_one]
      rw [shr_eq (by decide), ok_bind, shl_eq (by omega) bit, ok_bind, Nat.one_mul, or_two_pow,
        marked, onward (by omega), ← marked, Nat.add_assoc]
    · rw [two_pow_succ_mul, onward (by omega)]

/-- The base-two logarithm with sixteen fractional bits. -/
def log2FixedChecked (value : Nat) : Checked Nat :=
  if value = 0 then return 0
  else do
    let whole ← sub 63 (leadingZerosIn 64 value)
    let wide ← shl 128 value 32
    let mantissa ← shr 128 wide whole
    let fraction ← logFractionChecked logFractionBits mantissa 0
    let scaled ← shl 32 whole logFractionBits
    return scaled ||| fraction

theorem log2FixedChecked_eq {value : Nat} (word : value < 2 ^ 64) :
    log2FixedChecked value = .ok (log2Fixed value) := by
  unfold log2FixedChecked
  split
  · rename_i none
    rw [none]
    rfl
  · rename_i some
    have whole := log2_le_of_word word some
    have zeros : leadingZerosIn 64 value = 63 - value.log2 := if_neg some
    have fraction := logFractionChecked_eq (Nat.le_refl 16) (mantissaOf_lt value) 0
    rw [Nat.mul_zero, Nat.zero_add] at fraction
    have low := logFraction_lt 16 (mantissaOf value)
    rw [zeros, sub_eq (by omega), ok_bind, show 63 - (63 - value.log2) = value.log2 by omega,
      shl_eq (by decide) (by omega), ok_bind, shr_eq (by omega), ok_bind, log2Fixed_eq some]
    show (logFractionChecked 16 (mantissaOf value) 0 >>= _) = _
    rw [fraction, ok_bind]
    show (shl 32 value.log2 16 >>= _) = _
    rw [shl_eq (by decide) (by omega), ok_bind, Nat.mul_comm value.log2,
      ← Nat.two_pow_add_eq_or_of_lt low, Nat.mul_comm]
    rfl

/-- The base-two logarithm in hundredths. -/
def log2CentiChecked (value : Nat) : Checked Nat := do
  let fixed ← log2FixedChecked value
  let hundredfold ← mul 64 fixed 100
  let one ← shl 64 1 logFractionBits
  let rounded ← divHalfUpChecked hundredfold one
  narrow 32 rounded

theorem log2CentiChecked_eq {value : Nat} (word : value < 2 ^ 64) :
    log2CentiChecked value = .ok (log2Centi value) := by
  have low := log2Fixed_lt word
  have rounded : log2Centi value ≤ log2Fixed value * 100 := by
    refine divHalfUp_le ?_
    exact Nat.le_mul_of_pos_left _ (by decide)
  rw [log2CentiChecked, log2FixedChecked_eq word, ok_bind, mul_eq (by omega), ok_bind,
    shl_eq (by decide) (by decide), ok_bind, divHalfUpChecked_eq (by omega), ok_bind, Nat.one_mul]
  exact narrow_eq (by rw [← log2Centi]; omega)

end Reputation
