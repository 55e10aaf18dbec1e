/-
**An average stays between its samples, and follows them.**

Rounding is monotone and never passes a whole number that its argument does not pass. A step of an
average therefore stays below every bound on the average and on the sample, and is the higher the
higher they are, also where the step is forced to be one unit.

* `mixture`: where a step would go if none were forced.
* `blend_le`, `le_blend`: a step stays within every bound on the average and on its target.
* `blend_eq_self_iff`, `distance_blend_lt`: a step moves an average that is off its target, and
  towards it.
* **`blend_mono`**: a step is monotone in the average and in its target.
-/

import Reputation.Numeric.Blend
import Reputation.Proofs.Numeric.Rounding

namespace Reputation

/-! ### The rounded mixture of an average and its target -/

/-- The rounded mixture to which an average would go if no step were forced. -/
def mixture (old target alpha : Nat) : Nat :=
  divHalfUp (min alpha basisPoints * target + (basisPoints - min alpha basisPoints) * old)
    basisPoints

theorem mixture_weights (alpha bound : Nat) :
    min alpha basisPoints * bound + (basisPoints - min alpha basisPoints) * bound =
      basisPoints * bound := by
  rw [← Nat.add_mul, Nat.add_sub_cancel' (Nat.min_le_right _ _)]

theorem mixture_le {old target bound : Nat} (start : old ≤ bound) (aim : target ≤ bound)
    (alpha : Nat) : mixture old target alpha ≤ bound := by
  refine divHalfUp_le ?_
  rw [← mixture_weights alpha bound]
  exact Nat.add_le_add (Nat.mul_le_mul_left _ aim) (Nat.mul_le_mul_left _ start)

theorem le_mixture {old target bound : Nat} (start : bound ≤ old) (aim : bound ≤ target)
    (alpha : Nat) : bound ≤ mixture old target alpha := by
  refine le_divHalfUp (by decide) ?_
  rw [← mixture_weights alpha bound]
  exact Nat.add_le_add (Nat.mul_le_mul_left _ aim) (Nat.mul_le_mul_left _ start)

theorem mixture_mono {old higher target further : Nat} (start : old ≤ higher)
    (aim : target ≤ further) (alpha : Nat) :
    mixture old target alpha ≤ mixture higher further alpha :=
  divHalfUp_mono _
    (Nat.add_le_add (Nat.mul_le_mul_left _ aim) (Nat.mul_le_mul_left _ start))

/-- A step goes to the mixture, unless that would leave the average off its target where it is. -/
theorem blend_eq (old target alpha : Nat) :
    blend old target alpha =
      if mixture old target alpha = old ∧ old ≠ target then
        if old < target then old + 1 else old - 1
      else mixture old target alpha := rfl

/-! ### Steps -/

/-- **A step of an average stays below every bound on the average and on its target.** -/
theorem blend_le {old target bound : Nat} (start : old ≤ bound) (aim : target ≤ bound)
    (alpha : Nat) : blend old target alpha ≤ bound := by
  have mixed := mixture_le start aim alpha
  rw [blend_eq]
  split
  · split
    · -- The forced step goes up only if the target is above.
      omega
    · omega
  · exact mixed

/-- **A step of an average stays above every lower bound on the average and on its target.** -/
theorem le_blend {old target bound : Nat} (start : bound ≤ old) (aim : bound ≤ target)
    (alpha : Nat) : bound ≤ blend old target alpha := by
  have mixed := le_mixture start aim alpha
  rw [blend_eq]
  split
  · split
    · exact Nat.le_succ_of_le start
    · -- The forced step goes down only if the target is below.
      omega
  · exact mixed

/-- **A step leaves an average where it is only if the average is on its target.** -/
theorem blend_eq_self_iff {old target : Nat} (alpha : Nat) :
    blend old target alpha = old ↔ old = target := by
  constructor
  · rw [blend_eq]
    split
    · split <;> omega
    · rename_i moved
      intro stays
      exact Classical.byContradiction fun off => moved ⟨stays, off⟩
  · rintro rfl
    exact Nat.le_antisymm (blend_le (Nat.le_refl _) (Nat.le_refl _) alpha)
      (le_blend (Nat.le_refl _) (Nat.le_refl _) alpha)

/-- **A step brings an average that is off its target closer to it.** -/
theorem distance_blend_lt {old target : Nat} (off : old ≠ target) (alpha : Nat) :
    distance (blend old target alpha) target < distance old target := by
  have moved : blend old target alpha ≠ old := fun stays =>
    off ((blend_eq_self_iff alpha).mp stays)
  have above := blend_le (Nat.le_max_left old target) (Nat.le_max_right old target) alpha
  have below := le_blend (Nat.min_le_left old target) (Nat.min_le_right old target) alpha
  unfold distance
  omega

/-- **A step of an average from higher up to a higher target ends higher up.** A forced step of the
lower average never gets past the higher one: it goes up only if the lower average is below its
target, and then a mixture of two higher numbers is above it too. -/
theorem blend_mono {old higher target further : Nat} (start : old ≤ higher)
    (aim : target ≤ further) (alpha : Nat) :
    blend old target alpha ≤ blend higher further alpha := by
  have mono := mixture_mono start aim alpha
  have above (up : old < target) (lower : old < higher) :
      old + 1 ≤ mixture higher further alpha :=
    le_mixture lower (Nat.lt_of_lt_of_le up aim) alpha
  have below (down : further < higher) (lower : old < higher) :
      mixture old target alpha ≤ higher - 1 :=
    mixture_le (by omega) (by omega) alpha
  rw [blend_eq, blend_eq]
  generalize mixture old target alpha = next at mono below
  generalize mixture higher further alpha = after at mono above
  (repeat' split) <;> omega

end Reputation
