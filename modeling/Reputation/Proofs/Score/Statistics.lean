/-
**The statistics stay on their scales.**

The averages of scores never pass the highest lifted score and the arrival average never passes its
cap, whatever the rates are. The peak is at least the slow average and at least the deepest fall.

* `Statistics.Scaled`: what holds between the parts of an update.
* `Statistics.InRange`: what holds after the drawdown was brought up to date.
* `Scaled.update`, `Scaled.correct`: a score and a revocation keep it.
-/

import Mathlib.Tactic.MkIffOfInductiveProp
import Reputation.Proofs.Numeric.Blend
import Reputation.Score.Statistics

namespace Reputation

theorem liftScore_le (score : UInt8) : liftScore score ≤ averageScale :=
  Nat.mul_le_mul_right 100 (Nat.min_le_right score.toNat 100)

/-- A step of an average never leaves its word. -/
theorem toNat_blendWord {old : UInt32} {target : Nat} (aim : target < 2 ^ 32) (rate : UInt32) :
    (blendWord old target rate).toNat = blend old.toNat target rate.toNat := by
  have bounded : blend old.toNat target rate.toNat ≤ 2 ^ 32 - 1 :=
    blend_le (Nat.le_sub_one_of_lt old.toNat_lt) (Nat.le_sub_one_of_lt aim) _
  exact UInt32.toNat_ofNat_of_lt' (Nat.lt_of_le_sub_one (by decide) bounded)

theorem toNat_blendWord_le {old : UInt32} {target bound : Nat} (start : old.toNat ≤ bound)
    (aim : target ≤ bound) (rate : UInt32) : (blendWord old target rate).toNat ≤ bound :=
  Nat.le_trans (Nat.mod_le _ _) (blend_le start aim rate.toNat)

theorem distance_le {first second bound : Nat} (one : first ≤ bound) (other : second ≤ bound) :
    distance first second ≤ bound :=
  Nat.le_trans (Nat.sub_le _ _) (Nat.max_le.mpr ⟨one, other⟩)

namespace Statistics

variable {statistics : Statistics} {policy : StatisticsPolicy} {target : Nat}

/-- The numbers are on their scales and no fall is deeper than the peak. -/
@[mk_iff]
structure Scaled (statistics : Statistics) : Prop where
  fast : statistics.fast.toNat ≤ averageScale
  slow : statistics.slow.toNat ≤ averageScale
  volatility : statistics.volatility.toNat ≤ averageScale
  arrival : statistics.arrival.toNat ≤ arrivalMax
  peak : statistics.peak.toNat ≤ averageScale
  drawdown : statistics.drawdown.toNat ≤ statistics.peak.toNat

/-- The numbers are on their scales, and the slow average and its deepest fall are within the
peak. -/
@[mk_iff]
structure InRange (statistics : Statistics) : Prop extends Scaled statistics where
  slow_le_peak : statistics.slow.toNat ≤ statistics.peak.toNat

theorem inRange_empty : InRange {} := by
  refine ⟨⟨?_, ?_, ?_, ?_, ?_, ?_⟩, ?_⟩ <;> decide

theorem Scaled.moveAverages (scaled : statistics.Scaled) (aim : target ≤ averageScale)
    (policy : StatisticsPolicy) : (statistics.moveAverages target policy).Scaled :=
  { scaled with
    fast := toNat_blendWord_le scaled.fast aim _
    slow := toNat_blendWord_le scaled.slow aim _ }

theorem Scaled.moveVolatility (scaled : statistics.Scaled) (policy : StatisticsPolicy) :
    (statistics.moveVolatility policy).Scaled :=
  { scaled with
    volatility := toNat_blendWord_le scaled.volatility (distance_le scaled.fast scaled.slow) _ }

theorem Scaled.countRepetition (scaled : statistics.Scaled) (repetition : Repetition)
    (policy : StatisticsPolicy) : (statistics.countRepetition repetition policy).Scaled := by
  cases repetition <;> exact { scaled with }

theorem Scaled.countNegative (scaled : statistics.Scaled) (score : UInt8)
    (policy : StatisticsPolicy) : (statistics.countNegative score policy).Scaled :=
  { scaled with }

theorem Scaled.countGap (scaled : statistics.Scaled) (gap : Option UInt64)
    (policy : StatisticsPolicy) : (statistics.countGap gap policy).Scaled := by
  cases gap with
  | none => exact scaled
  | some gap =>
    have observed : min (log2Centi gap.toNat) arrivalMax ≤ arrivalMax := Nat.min_le_right _ _
    refine { scaled with arrival := ?_ }
    show (if statistics.arrivalSeeded = true then _ else _ : UInt32).toNat ≤ arrivalMax
    split
    · exact toNat_blendWord_le scaled.arrival observed _
    · exact Nat.le_trans (Nat.mod_le _ _) observed

/-- **The peak is raised to the slow average, and no fall is deeper than the peak.** -/
theorem Scaled.trackDrawdown (scaled : statistics.Scaled) : statistics.trackDrawdown.InRange := by
  have high : max statistics.peak.toNat statistics.slow.toNat ≤ averageScale :=
    Nat.max_le.mpr ⟨scaled.peak, scaled.slow⟩
  have peak : statistics.trackDrawdown.peak.toNat =
      max statistics.peak.toNat statistics.slow.toNat :=
    UInt32.toNat_ofNat_of_lt' (Nat.lt_of_le_of_lt high (by decide))
  refine { scaled with peak := ?_, drawdown := ?_, slow_le_peak := ?_ }
  · rw [peak]
    exact high
  · rw [peak]
    refine Nat.le_trans (Nat.mod_le _ _) (Nat.max_le.mpr ⟨?_, Nat.sub_le _ _⟩)
    exact Nat.le_trans scaled.drawdown (Nat.le_max_left _ _)
  · rw [peak]
    exact Nat.le_max_right _ _

/-- **A score keeps the statistics in range.** -/
theorem Scaled.update (scaled : statistics.Scaled) (sample : Sample) (policy : StatisticsPolicy) :
    (statistics.update sample policy).InRange :=
  ((((scaled.moveAverages (liftScore_le _) policy).moveVolatility policy).countRepetition _
    policy).countNegative _ policy |>.countGap _ policy).trackDrawdown

/-- **A revocation keeps the statistics in range.** -/
theorem Scaled.correct (scaled : statistics.Scaled) (revoked : UInt8) (liveMean : Option UInt8)
    (policy : StatisticsPolicy) : (statistics.correct revoked liveMean policy).InRange := by
  have relieved {moved : Statistics} (scaled : moved.Scaled) :
      (if revoked < policy.negativeThreshold then
        { moved with negative := fadePressure moved.negative policy.decayShare }
      else moved).trackDrawdown.InRange := by
    split
    · exact Scaled.trackDrawdown { scaled with }
    · exact scaled.trackDrawdown
  cases liveMean with
  | none => exact relieved scaled
  | some mean => exact relieved (scaled.moveAverages (liftScore_le mean) policy)

end Statistics

end Reputation
