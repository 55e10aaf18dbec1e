/-
**Higher scores, higher averages.**

Two entities that get their feedbacks from the same raters at the same times differ in nothing but
their scores. If the scores of one are never below those of the other, its averages and its peak are
not either, and their loyalty is the same: no part of it is made of scores.

* `Statistics.Below`: the order of the averages, loyalty being equal.
* `Below.update`, `Below.correct`: a higher score keeps it, and so does a revocation when the
  remembered scores have a higher mean.
* `qualityOf_mono`: higher averages have a higher quality.
-/

import Reputation.Proofs.Numeric.Mean
import Reputation.Proofs.Score.Statistics
import Reputation.Score.Confidence

namespace Reputation

/-! ### Scores -/

theorem liftScore_mono {score raised : UInt8} (le : score ≤ raised) :
    liftScore score ≤ liftScore raised := by
  rw [UInt8.le_iff_toNat_le] at le
  unfold liftScore
  omega

/-! ### Statistics -/

theorem blendWord_mono {old higher : UInt32} {target further : Nat} (start : old ≤ higher)
    (aim : target ≤ further) (word : further < 2 ^ 32) (rate : UInt32) :
    blendWord old target rate ≤ blendWord higher further rate := by
  rw [UInt32.le_iff_toNat_le] at start ⊢
  rw [toNat_blendWord (Nat.lt_of_le_of_lt aim word), toNat_blendWord word]
  exact blend_mono start aim _

namespace Statistics

/-- Averages and peak are below those of another entity, loyalty is the same. -/
structure Below (first second : Statistics) : Prop where
  fast : first.fast ≤ second.fast
  slow : first.slow ≤ second.slow
  peak : first.peak ≤ second.peak
  loyalty : first.loyalty = second.loyalty

variable {first second : Statistics} {target further : Nat} {policy : StatisticsPolicy}

theorem Below.moveAverages (below : first.Below second) (aim : target ≤ further)
    (low : further ≤ averageScale) (policy : StatisticsPolicy) :
    (first.moveAverages target policy).Below (second.moveAverages further policy) :=
  { below with
    fast := blendWord_mono below.fast aim (Nat.lt_of_le_of_lt low (by decide)) _
    slow := blendWord_mono below.slow aim (Nat.lt_of_le_of_lt low (by decide)) _ }

theorem Below.moveVolatility (below : first.Below second) (policy : StatisticsPolicy) :
    (first.moveVolatility policy).Below (second.moveVolatility policy) :=
  { below with }

theorem Below.countRepetition (below : first.Below second) (repetition : Repetition)
    (policy : StatisticsPolicy) :
    (first.countRepetition repetition policy).Below (second.countRepetition repetition policy) := by
  cases repetition with
  | rapid | fresh => exact { below with }
  | returning =>
    refine { below with loyalty := ?_ }
    show UInt8.ofNat _ = UInt8.ofNat _
    rw [below.loyalty]

theorem Below.countNegative (below : first.Below second) (score raised : UInt8)
    (policy : StatisticsPolicy) :
    (first.countNegative score policy).Below (second.countNegative raised policy) :=
  { below with }

theorem Below.countGap (below : first.Below second) (gap : Option UInt64)
    (policy : StatisticsPolicy) :
    (first.countGap gap policy).Below (second.countGap gap policy) := by
  cases gap with
  | none => exact below
  | some gap => exact { below with }

theorem toNat_peak_trackDrawdown (statistics : Statistics) :
    statistics.trackDrawdown.peak.toNat = max statistics.peak.toNat statistics.slow.toNat :=
  UInt32.toNat_ofNat_of_lt' (Nat.max_lt.mpr ⟨statistics.peak.toNat_lt, statistics.slow.toNat_lt⟩)

theorem Below.trackDrawdown (below : first.Below second) :
    first.trackDrawdown.Below second.trackDrawdown := by
  refine { below with peak := ?_ }
  have peak := UInt32.le_iff_toNat_le.mp below.peak
  have slow := UInt32.le_iff_toNat_le.mp below.slow
  rw [UInt32.le_iff_toNat_le, toNat_peak_trackDrawdown, toNat_peak_trackDrawdown]
  omega

/-- **A higher score keeps the averages higher.** -/
theorem Below.update (below : first.Below second) {score raised : UInt8} (le : score ≤ raised)
    (gap : Option UInt64) (repetition : Repetition) (policy : StatisticsPolicy) :
    (first.update ⟨score, gap, repetition⟩ policy).Below
      (second.update ⟨raised, gap, repetition⟩ policy) :=
  ((((below.moveAverages (liftScore_mono le) (liftScore_le raised) policy).moveVolatility
    policy).countRepetition _ policy).countNegative _ _ policy |>.countGap _ policy).trackDrawdown

/-- **A revocation keeps the averages higher if the remembered scores have a higher mean.** Which
score is revoked bears on negative pressure only. -/
theorem Below.correct (below : first.Below second) (revoked other : UInt8)
    {mean higher : Option UInt8} (le : Option.Rel (· ≤ ·) mean higher)
    (policy : StatisticsPolicy) :
    (first.correct revoked mean policy).Below (second.correct other higher policy) := by
  have relieved {one two : Statistics} (below : one.Below two) :
      (if revoked < policy.negativeThreshold then
          { one with negative := fadePressure one.negative policy.decayShare } else one).Below
        (if other < policy.negativeThreshold then
          { two with negative := fadePressure two.negative policy.decayShare } else two) := by
    split <;> split <;> exact { below with }
  cases le with
  | none => exact (relieved below).trackDrawdown
  | some le =>
    exact (relieved
      (below.moveAverages (liftScore_mono le) (liftScore_le _) policy)).trackDrawdown

end Statistics

/-- **Higher averages have a higher quality.** -/
theorem qualityOf_mono {fast faster slow slower : UInt32} (one : fast ≤ faster)
    (two : slow ≤ slower) (confidence : UInt8) (policy : ConfidencePolicy) :
    qualityOf fast slow confidence policy ≤ qualityOf faster slower confidence policy := by
  rw [UInt32.le_iff_toNat_le] at one two
  have blended : fast.toNat * min policy.fastWeight.toNat 100 +
        slow.toNat * (100 - min policy.fastWeight.toNat 100) ≤
      faster.toNat * min policy.fastWeight.toNat 100 +
        slower.toNat * (100 - min policy.fastWeight.toNat 100) :=
    Nat.add_le_add (Nat.mul_le_mul_right _ one) (Nat.mul_le_mul_right _ two)
  have damped := divHalfUp_mono (100 * 100)
    (Nat.mul_le_mul_right (min confidence.toNat confidenceMax) blended)
  have words : ∀ quality, (UInt32.ofNat (min quality qualityMax)).toNat = min quality qualityMax :=
    fun quality =>
      UInt32.toNat_ofNat_of_lt' (Nat.lt_of_le_of_lt (Nat.min_le_right _ _) (by decide))
  unfold qualityOf
  rw [UInt32.le_iff_toNat_le, words, words]
  omega

end Reputation
