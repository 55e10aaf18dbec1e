/-
**Rounded quotients.**

Rounding a half up is a quotient of doubled numbers. So it is monotone, and it never passes a whole
number that its argument does not pass. What is carried from one range to another keeps its order.

* `divHalfUp_eq`: the rounded quotient as a quotient.
* `divHalfUp_le`, `le_divHalfUp`: whole numbers that it does not pass.
* `divHalfUp_mono`, `divHalfUp_anti`, `proportion_mono`: orders that are kept.
* `divHalfUp_min`: the lower of two numbers has the lower of the two quotients.
-/

import Reputation.Numeric.Rounding

namespace Reputation

theorem divHalfUp_eq {den : Nat} (positive : 0 < den) (num : Nat) :
    divHalfUp num den = (2 * num + den) / (2 * den) := by
  have rest := Nat.mod_lt num positive
  have split : 2 * num + den = 2 * (num % den) + den + 2 * den * (num / den) := by
    have whole := Nat.div_add_mod num den
    rw [Nat.mul_assoc]
    omega
  rw [split, Nat.add_mul_div_left _ _ (by omega), divHalfUp, if_neg (Nat.ne_of_gt positive)]
  split
  · rename_i up
    have one : (2 * (num % den) + den) / (2 * den) = 1 :=
      Nat.div_eq_of_lt_le (by omega) (by omega)
    rw [one, Nat.add_comm]
  · rename_i down
    have none : (2 * (num % den) + den) / (2 * den) = 0 := Nat.div_eq_of_lt (by omega)
    rw [none, Nat.zero_add]

theorem divHalfUp_le {num den bound : Nat} (within : num ≤ den * bound) :
    divHalfUp num den ≤ bound := by
  rcases Nat.eq_zero_or_pos den with rfl | positive
  · exact Nat.zero_le _
  · have next : (bound + 1) * (2 * den) = 2 * (den * bound) + 2 * den := by
      rw [Nat.succ_mul, Nat.mul_comm bound, Nat.mul_assoc]
    rw [divHalfUp_eq positive, ← Nat.lt_succ_iff, Nat.div_lt_iff_lt_mul (by omega),
      Nat.succ_eq_add_one, next]
    omega

theorem divHalfUp_mono {num more : Nat} (den : Nat) (le : num ≤ more) :
    divHalfUp num den ≤ divHalfUp more den := by
  rcases Nat.eq_zero_or_pos den with rfl | positive
  · exact Nat.le_refl _
  · rw [divHalfUp_eq positive, divHalfUp_eq positive]
    exact Nat.div_le_div_right (by omega)

theorem divHalfUp_min (first second den : Nat) :
    divHalfUp (min first second) den = min (divHalfUp first den) (divHalfUp second den) := by
  rcases Nat.le_total first second with le | le
  · rw [Nat.min_eq_left le, Nat.min_eq_left (divHalfUp_mono den le)]
  · rw [Nat.min_eq_right le, Nat.min_eq_right (divHalfUp_mono den le)]

/-- A rounded quotient is the lower the more its number is divided by. -/
theorem divHalfUp_anti {den more : Nat} (num : Nat) (positive : 0 < den) (le : den ≤ more) :
    divHalfUp num more ≤ divHalfUp num den := by
  have within := Nat.div_mul_le_self (2 * num + more) (2 * more)
  rw [divHalfUp_eq positive, divHalfUp_eq (Nat.lt_of_lt_of_le positive le),
    Nat.le_div_iff_mul_le (by omega)]
  generalize (2 * num + more) / (2 * more) = quotient at within
  cases quotient with
  | zero => omega
  | succ below =>
    have doubled (part : Nat) : (below + 1) * (2 * part) = (2 * below + 1) * part + part := by
      rw [← Nat.mul_assoc, ← Nat.succ_mul]
      congr 1
      omega
    have fewer : (2 * below + 1) * den ≤ (2 * below + 1) * more := Nat.mul_le_mul_left _ le
    rw [doubled] at within ⊢
    omega

theorem le_divHalfUp {num den bound : Nat} (positive : 0 < den) (within : den * bound ≤ num) :
    bound ≤ divHalfUp num den := by
  rw [divHalfUp_eq positive, Nat.le_div_iff_mul_le (by omega)]
  have doubled : bound * (2 * den) = 2 * (den * bound) := by
    rw [Nat.mul_comm, Nat.mul_assoc]
  omega

/-- **A higher value has a higher proportion.** The product may stop at the largest word: it does so
for the higher value first. -/
theorem proportion_mono {value higher : Nat} (inMax outMax : Nat) (le : value ≤ higher) :
    proportion value inMax outMax ≤ proportion higher inMax outMax := by
  have products := Nat.mul_le_mul_right outMax le
  unfold proportion
  split
  · exact Nat.le_refl _
  · have shares := divHalfUp_mono inMax
      (show min (value * outMax) wordMax ≤ min (higher * outMax) wordMax by omega)
    omega

end Reputation
