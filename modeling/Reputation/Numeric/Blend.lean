/-
**Exponential averages.**

An average moves towards each new sample by a share given in basis points. `blend` is one such
step. Rounding alone could leave an average stuck one unit short of a sample that keeps coming, so
a step that would not move an average which is off its target moves it by one unit.
-/

import Reputation.Numeric.Rounding

namespace Reputation

/-- The basis points in a whole. -/
def basisPoints : Nat := 10000

/-- The step of an average from `old` towards `target` with a share of `alpha` basis points; a share
above the whole counts as the whole. -/
def blend (old target alpha : Nat) : Nat :=
  let share := min alpha basisPoints
  let next := divHalfUp (share * target + (basisPoints - share) * old) basisPoints
  if next = old ∧ old ≠ target then
    if old < target then old + 1 else old - 1
  else next

end Reputation
