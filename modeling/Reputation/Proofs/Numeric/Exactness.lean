/-
**Rounded quotients are exact, proportions as far as a word reaches.**

A quotient is rounded by comparing what is left of a division with what is missing to the next one,
so nothing is doubled that could leave its word, and a mean is exact because the sum and the quotient
it is made of are. A proportion is a quotient of a product, and the product stops at the largest
word. Where it does, the proportion is that of the largest word. Most often this does not show: the
whole range is reached by then, unless the range is so wide that its own product leaves the word.

* `exactProportion`: what a proportion would be by products of any size.
* `reach`: the proportion of the largest word, past which none gets.
* `proportion_eq_min`: a proportion is exact, or it is the reach where that is lower.
* `proportion_eq_exact_of_short`: the proportions that scores are made of are exact.
* **`proportions_within_reach`**: which proportions are exact, and what the others are.
* `half_of_words_is_lost`: half of the largest word is one per cent of it.
* **`rounding_is_exact`**: rounded quotients and means are exact.
-/

import Reputation.Proofs.Words.Numeric

namespace Reputation

/-! ### Proportions -/

section

variable {value inMax outMax : Nat}

/-- The share of `outMax` that `value` is of `inMax`, a half going up and at most `outMax`, by a
product of any size. -/
def exactProportion (value inMax outMax : Nat) : Nat :=
  min outMax ((2 * value * outMax + inMax) / (2 * inMax))

/-- The number of times that `inMax` goes into the largest word, a half going up. -/
def reach (inMax : Nat) : Nat := (2 * wordMax + inMax) / (2 * inMax)

theorem divHalfUp_wordMax (range : 0 < inMax) : divHalfUp wordMax inMax = reach inMax :=
  divHalfUp_eq range wordMax

theorem exactProportion_eq (range : 0 < inMax) (value outMax : Nat) :
    exactProportion value inMax outMax = min outMax (divHalfUp (value * outMax) inMax) := by
  rw [exactProportion, divHalfUp_eq range, Nat.mul_assoc]

/-- **A proportion is exact, or it is the reach where that is lower.** -/
theorem proportion_eq_min (range : 0 < inMax) (value outMax : Nat) :
    proportion value inMax outMax = min (exactProportion value inMax outMax) (reach inMax) := by
  rw [proportion, if_neg (Nat.ne_of_gt range), divHalfUp_min, divHalfUp_wordMax range,
    exactProportion_eq range]
  omega

theorem proportion_eq_exact_iff (range : 0 < inMax) :
    proportion value inMax outMax = exactProportion value inMax outMax ↔
      exactProportion value inMax outMax ≤ reach inMax := by
  rw [proportion_eq_min range]
  omega

/-- A product that fits its word gives no more than the largest word does. -/
theorem exactProportion_le_reach (range : 0 < inMax) (fits : value * outMax < 2 ^ 64) :
    exactProportion value inMax outMax ≤ reach inMax := by
  rw [exactProportion_eq range, ← divHalfUp_wordMax range]
  exact Nat.le_trans (Nat.min_le_right _ _) (divHalfUp_mono inMax (Nat.le_sub_one_of_lt fits))

/-- A range that fits its word as a product is within reach as a whole. -/
theorem le_reach (range : 0 < inMax) (fits : inMax * outMax < 2 ^ 64) : outMax ≤ reach inMax := by
  rw [← divHalfUp_wordMax range]
  exact le_divHalfUp range (Nat.le_sub_one_of_lt fits)

/-- **A proportion is exact if its product fits a word, or that of the whole range does.** -/
theorem proportion_eq_exact (range : 0 < inMax)
    (fits : value * outMax < 2 ^ 64 ∨ inMax * outMax < 2 ^ 64) :
    proportion value inMax outMax = exactProportion value inMax outMax := by
  rw [proportion_eq_exact_iff range]
  rcases fits with product | whole
  · exact exactProportion_le_reach range product
  · exact Nat.le_trans (Nat.min_le_left _ _) (le_reach range whole)

end

/-- **Proportions of words of 32 bits are exact**, and with them all scores, which are made of no
others. -/
theorem proportion_eq_exact_of_short (value outMax : UInt32) {inMax : UInt32} (some : inMax ≠ 0) :
    proportion value.toNat inMax.toNat outMax.toNat =
      exactProportion value.toNat inMax.toNat outMax.toNat := by
  have range : 0 < inMax.toNat := UInt32.lt_iff_toNat_lt.mp (UInt32.pos_iff_ne_zero.mpr some)
  have product : value.toNat * outMax.toNat ≤ (2 ^ 32 - 1) * (2 ^ 32 - 1) :=
    Nat.mul_le_mul (Nat.le_sub_one_of_lt value.toNat_lt) (Nat.le_sub_one_of_lt outMax.toNat_lt)
  exact proportion_eq_exact range (.inl (Nat.lt_of_le_of_lt product (by decide)))

/-- **Proportions are exact within reach of a word.** For all words that make a range: taking the
proportion has no fault; it is exact exactly if the largest word goes that far, and stops at the
reach of the largest word if not; it is exact in any case if the product of the value fits a word,
or that of the whole range does. -/
theorem proportions_within_reach (value outMax : UInt64) {inMax : UInt64} (some : inMax ≠ 0) :
    proportionChecked value.toNat inMax.toNat outMax.toNat =
        .ok (proportion value.toNat inMax.toNat outMax.toNat) ∧
      (proportion value.toNat inMax.toNat outMax.toNat =
          exactProportion value.toNat inMax.toNat outMax.toNat ↔
        exactProportion value.toNat inMax.toNat outMax.toNat ≤ reach inMax.toNat) ∧
      (reach inMax.toNat < exactProportion value.toNat inMax.toNat outMax.toNat →
        proportion value.toNat inMax.toNat outMax.toNat = reach inMax.toNat) ∧
      (value.toNat * outMax.toNat < 2 ^ 64 ∨ inMax.toNat * outMax.toNat < 2 ^ 64 →
        proportion value.toNat inMax.toNat outMax.toNat =
          exactProportion value.toNat inMax.toNat outMax.toNat) := by
  have range : 0 < inMax.toNat := UInt64.lt_iff_toNat_lt.mp (UInt64.pos_iff_ne_zero.mpr some)
  refine ⟨proportionChecked_eq _ _ _, proportion_eq_exact_iff range, fun beyond => ?_,
    proportion_eq_exact range⟩
  rw [proportion_eq_min range]
  exact Nat.min_eq_right (Nat.le_of_lt beyond)

/-- A value far above its range, `2 ^ 40`, has the whole of it, although its own product leaves the
word. Where the product of the range leaves it too, the largest word goes into itself once. -/
theorem far_value_within_reach :
    ((1099511627776 : UInt64) ≠ 0 ∧ 1099511627776 * 1048576 < 2 ^ 64 ∧
        proportion (2 ^ 63) 1099511627776 1048576 = 1048576) ∧
      (18446744073709551615 : UInt64) ≠ 0 ∧ reach wordMax < exactProportion (2 ^ 63) wordMax 100 ∧
        proportion (2 ^ 63) wordMax 100 = 1 := by
  have narrow : (1099511627776 : UInt64) ≠ 0 := by decide
  have wide : (18446744073709551615 : UInt64) ≠ 0 := by decide
  obtain ⟨-, -, -, whole⟩ := proportions_within_reach 9223372036854775808 1048576 narrow
  obtain ⟨-, -, beyond, -⟩ := proportions_within_reach 9223372036854775808 100 wide
  exact ⟨⟨narrow, by decide, whole (.inr (by decide))⟩, wide, by decide, beyond (by decide)⟩

/-- **Half of the largest word is one per cent of it.** The product with a hundred stops at the
largest word, which goes into itself once; by a product of any size it would be fifty per cent. -/
theorem half_of_words_is_lost :
    proportion (2 ^ 63) wordMax 100 = 1 ∧ exactProportion (2 ^ 63) wordMax 100 = 50 ∧
      ¬ ∀ value inMax outMax : UInt64, inMax ≠ 0 →
        proportion value.toNat inMax.toNat outMax.toNat =
          exactProportion value.toNat inMax.toNat outMax.toNat := by
  refine ⟨by decide, by decide, fun exact => ?_⟩
  have half := exact 9223372036854775808 18446744073709551615 100 (by decide)
  exact absurd half (by decide)

/-! ### Quotients and means -/

/-- **Rounded quotients and means are exact.** For all words but a divisor of zero, those above half
of a word included, no operation of a rounded quotient leaves its word, and the quotient is that of
doubled numbers, which is the nearest one with a half going up. For all bytes but an empty list of
them, and fewer than `2 ^ 56`, no operation of their mean leaves its word. The mean is the quotient
of their sum by their number, rounded so, with nothing cut off; it lies between the lowest and the
highest of them; it does not depend on their order; and raising one of them never lowers it. -/
theorem rounding_is_exact :
    (∀ num den : UInt64, den ≠ 0 →
      divHalfUpChecked num.toNat den.toNat = .ok (divHalfUp num.toNat den.toNat) ∧
        divHalfUp num.toNat den.toNat = (2 * num.toNat + den.toNat) / (2 * den.toNat)) ∧
      ∀ (values : List UInt8) (nonempty : values ≠ []), values.length < 2 ^ 56 →
        ∃ mean, meanHalfUpChecked values = .ok (some mean) ∧ meanHalfUp values = some mean ∧
          mean.toNat = (2 * byteTotal values + values.length) / (2 * values.length) ∧
          (values.min nonempty ≤ mean ∧ mean ≤ values.max nonempty) ∧
          (∀ others, values.Perm others → meanHalfUp others = some mean) ∧
          (∀ index (inside : index < values.length) higher, values[index] ≤ higher →
            ∃ raised, meanHalfUp (values.set index higher) = some raised ∧ mean ≤ raised) ∧
          divHalfUp (byteTotal values) values.length ≤ 255 := by
  constructor
  · intro num den some
    have positive : 0 < den.toNat := UInt64.lt_iff_toNat_lt.mp (UInt64.pos_iff_ne_zero.mpr some)
    exact ⟨divHalfUpChecked_eq num.toNat_lt den.toNat, divHalfUp_eq positive num.toNat⟩
  · intro values nonempty few
    have found := meanHalfUp_eq nonempty
    refine ⟨_, (meanHalfUpChecked_eq few).trans (congrArg Except.ok found), found, ?_,
      mean_between nonempty found, fun others same => ?_, fun index inside higher le => ?_,
      divHalfUp_byteTotal_le values⟩
    · rw [toNat_mean found, divHalfUp_eq (List.length_pos_iff.mpr nonempty)]
    · rw [← meanHalfUp_perm same, found]
    · exact mean_le_of_set inside le found

/-- The largest word but one, divided by the largest, is one. Three scores of 33, 34 and 34 have a
mean of 34 in every order, and no lower one if the first of them is raised. -/
theorem rounding_is_exact_three_scores :
    (18446744073709551615 : UInt64) ≠ 0 ∧
      divHalfUpChecked 18446744073709551614 18446744073709551615 = .ok 1 ∧
      [33, 34, 34] ≠ ([] : List UInt8) ∧ ([33, 34, 34] : List UInt8).length < 2 ^ 56 ∧
      meanHalfUpChecked [33, 34, 34] = .ok (some 34) ∧ meanHalfUp [34, 33, 34] = some 34 ∧
      ∃ raised, meanHalfUp [90, 34, 34] = some raised ∧ 34 ≤ raised := by
  obtain ⟨quotients, means⟩ := rounding_is_exact
  obtain ⟨faultless, -⟩ := quotients 18446744073709551614 18446744073709551615 (by decide)
  obtain ⟨mean, checked, found, -, -, reordered, raised, -⟩ :=
    means [33, 34, 34] (by decide) (by decide)
  obtain rfl : 34 = mean := Option.some.inj found
  exact ⟨by decide, faultless, by decide, by decide, checked,
    reordered [34, 33, 34] (.swap 34 33 [34]), raised 0 (by decide) 90 (by decide)⟩

end Reputation
