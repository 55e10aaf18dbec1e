/-
**What the bounds of a configuration say.**

A check passes exactly if every bound in it is kept.

* `Config.check_eq_ok`: a configuration is within bounds if each of its sections is.
* `RingPolicy.bypassLimit_le_of_check`: within bounds, the bypass list has room for the writes of a
  window.
* `ConfidencePolicy.ordered_of_check`: within bounds, the floor of confidence is below its ceiling.
* `RiskPolicy.weightSum_of_check`: within bounds, the weights of the risk signals add up to a
  hundred.
* `TierPolicy.ladder_of_check`: within bounds, each rung of the ladder is harder than the one below.
-/

import Reputation.Config.Bounds
import Reputation.Proofs.Fallible

namespace Reputation

theorem require_eq_ok {kept : Bool} {fault : BoundsFault} {result : Unit} :
    require kept fault = .ok result ↔ kept = true := by
  cases kept <;> simp [require]

theorem Config.check_eq_ok {config : Config} {result : Unit} :
    config.check = .ok result ↔
      config.ring.check = .ok () ∧ config.statistics.check = .ok () ∧
        config.confidence.check = .ok () ∧ config.risk.check = .ok () ∧
        config.tiers.check = .ok () := by
  simp only [check, boundsFault, mapError_eq_ok, check_bind_eq_ok]

/-- Within bounds, no more writes pass the ring by than the bypass list holds. -/
theorem RingPolicy.bypassLimit_le_of_check {policy : RingPolicy} {result : Unit}
    (within : policy.check = .ok result) : policy.bypassLimit.toNat ≤ bypassCapacity := by
  simp only [check, check_bind_eq_ok, require_eq_ok, Bool.and_eq_true, decide_eq_true_eq] at within
  exact within.2.2

/-- Cold start takes at least one feedback and is followed by a floor below the ceiling. -/
structure ConfidencePolicy.Ordered (policy : ConfidencePolicy) : Prop where
  samples_pos : 0 < policy.coldStartSamples.toNat
  ceiling_le : policy.ceiling.toNat ≤ confidenceMax
  floor_le : policy.coldStartFloor.toNat ≤ policy.ceiling.toNat

theorem ConfidencePolicy.ordered_of_check {policy : ConfidencePolicy} {result : Unit}
    (within : policy.check = .ok result) : policy.Ordered := by
  simp only [check, check_bind_eq_ok, require_eq_ok, bne_iff_ne, ne_eq, decide_eq_true_eq,
    ← UInt32.toNat_inj] at within
  obtain ⟨samples, ceiling, floor, -, -⟩ := within
  exact ⟨Nat.pos_of_ne_zero samples, ceiling, floor⟩

/-- Within bounds, the weights of the risk signals are percentages of a whole. -/
theorem RiskPolicy.weightSum_of_check {policy : RiskPolicy} {result : Unit}
    (within : policy.check = .ok result) : policy.weightSum = 100 := by
  simp only [check, check_bind_eq_ok, require_eq_ok, beq_iff_eq] at within
  exact within.1

/-- Each rung of the ladder is harder than the one below. -/
structure TierPolicy.Ladder (policy : TierPolicy) : Prop where
  silver : policy.silver.harderThan policy.bronze = true
  gold : policy.gold.harderThan policy.silver = true
  platinum : policy.platinum.harderThan policy.gold = true

theorem TierPolicy.ladder_of_check {policy : TierPolicy} {result : Unit}
    (within : policy.check = .ok result) : policy.Ladder := by
  simp only [check, check_bind_eq_ok, require_eq_ok] at within
  obtain ⟨-, -, -, -, -, -, silver, gold, platinum⟩ := within
  exact ⟨silver, gold, platinum⟩

end Reputation
