/-
**Statistics and scores stay in their words.**

* `Statistics.updateChecked`, `correctChecked`: the statistics after a score and after a revocation,
  from any statistics that their words can hold, also ones that no stream of scores leads to.
* `diversityOfChecked`, `confidenceOfChecked`, `qualityOfChecked`: what is worked out from them.
* `RiskSignals.computeChecked`, `weightedChecked`: the signals of risk and their mean.

Each is the function of which it carries the name, word by word, and each comes with a theorem that
there is no fault, whatever the configuration says.
-/

import Reputation.Proofs.Fallible
import Reputation.Proofs.Score.Risk
import Reputation.Proofs.Score.Statistics
import Reputation.Proofs.Words.Numeric

namespace Reputation

open Checked

/-! ### Averages and pressures -/

/-- A step of an average held in a word of 32 bits. -/
def blendWordChecked (old : UInt32) (target : Nat) (rate : UInt32) : Checked UInt32 := do
  let next ← blendChecked old.toNat target rate.toNat
  return UInt32.ofNat next

theorem blendWordChecked_eq (old : UInt32) {target : Nat} (aim : target < 2 ^ 32) (rate : UInt32) :
    blendWordChecked old target rate = .ok (blendWord old target rate) := by
  rw [blendWordChecked, blendChecked_eq old.toNat_lt aim]
  rfl

/-- A score on the scale of the averages. -/
def liftScoreChecked (score : UInt8) : Checked Nat := mul 32 (min score.toNat 100) 100

theorem liftScoreChecked_eq (score : UInt8) : liftScoreChecked score = .ok (liftScore score) :=
  mul_eq (by omega)

theorem liftScore_lt (score : UInt8) : liftScore score < 2 ^ 32 :=
  Nat.lt_of_le_of_lt (liftScore_le score) (by decide)

/-- A pressure pulled towards the highest one. -/
def raisePressureChecked (pressure : UInt8) (rate : UInt32) : Checked UInt8 := do
  let next ← blendChecked pressure.toNat pressureMax rate.toNat
  byte (min next pressureMax)

theorem raisePressureChecked_eq (pressure : UInt8) (rate : UInt32) :
    raisePressureChecked pressure rate = .ok (raisePressure pressure rate) := by
  have byte := pressure.toNat_lt
  rw [raisePressureChecked, blendChecked_eq (by omega) (by decide), ok_bind, byte_min (by decide)]
  rfl

/-- The given percentage of a pressure. -/
def fadePressureChecked (pressure share : UInt8) : Checked UInt8 := do
  let product ← mul 32 pressure.toNat (min share.toNat 99)
  let faded ← div product 100
  byte faded

theorem fadePressureChecked_eq (pressure share : UInt8) :
    fadePressureChecked pressure share = .ok (fadePressure pressure share) := by
  have byte := pressure.toNat_lt
  have product : pressure.toNat * min share.toNat 99 ≤ 255 * 99 :=
    Nat.mul_le_mul (by omega) (Nat.min_le_right _ _)
  rw [fadePressureChecked, mul_eq (by omega), ok_bind, div_eq (by decide), ok_bind,
    byte_eq (by omega)]
  rfl

/-! ### Statistics -/

namespace Statistics

/-- Moves the fast and the slow average towards a target. -/
def moveAveragesChecked (statistics : Statistics) (target : Nat) (policy : StatisticsPolicy) :
    Checked Statistics := do
  let fast ← blendWordChecked statistics.fast target policy.fastRate
  let slow ← blendWordChecked statistics.slow target policy.slowRate
  return { statistics with fast, slow }

theorem moveAveragesChecked_eq (statistics : Statistics) {target : Nat} (aim : target < 2 ^ 32)
    (policy : StatisticsPolicy) :
    statistics.moveAveragesChecked target policy = .ok (statistics.moveAverages target policy) := by
  rw [moveAveragesChecked, blendWordChecked_eq _ aim, ok_bind, blendWordChecked_eq _ aim]
  rfl

/-- Blends the distance of the averages into the volatility. -/
def moveVolatilityChecked (statistics : Statistics) (policy : StatisticsPolicy) :
    Checked Statistics := do
  let volatility ← blendWordChecked statistics.volatility
    (distance statistics.fast.toNat statistics.slow.toNat) policy.volatilityRate
  return { statistics with volatility }

theorem distance_lt (first second : UInt32) : distance first.toNat second.toNat < 2 ^ 32 :=
  Nat.lt_of_le_of_lt
    (distance_le (Nat.le_of_lt_succ first.toNat_lt) (Nat.le_of_lt_succ second.toNat_lt))
    (by decide)

theorem moveVolatilityChecked_eq (statistics : Statistics) (policy : StatisticsPolicy) :
    statistics.moveVolatilityChecked policy = .ok (statistics.moveVolatility policy) := by
  rw [moveVolatilityChecked, blendWordChecked_eq _ (distance_lt _ _)]
  rfl

/-- Raises burst pressure for a rapid repeat, lets it fade otherwise, and adds to loyalty for a
loyal repeat. Loyalty stops at the largest byte. -/
def countRepetitionChecked (statistics : Statistics) (repetition : Repetition)
    (policy : StatisticsPolicy) : Checked Statistics :=
  match repetition with
  | .rapid => do
    let burst ← raisePressureChecked statistics.burst policy.burstRate
    return { statistics with burst }
  | .fresh => do
    let burst ← fadePressureChecked statistics.burst policy.decayShare
    return { statistics with burst }
  | .returning => do
    let burst ← fadePressureChecked statistics.burst policy.decayShare
    let loyalty := saturate 8 (statistics.loyalty.toNat + policy.loyaltyStep.toNat)
    return { statistics with burst, loyalty := UInt8.ofNat (min loyalty loyaltyMax) }

theorem countRepetitionChecked_eq (statistics : Statistics) (repetition : Repetition)
    (policy : StatisticsPolicy) :
    statistics.countRepetitionChecked repetition policy =
      .ok (statistics.countRepetition repetition policy) := by
  cases repetition with
  | rapid =>
    rw [countRepetitionChecked, raisePressureChecked_eq]
    rfl
  | fresh =>
    rw [countRepetitionChecked, fadePressureChecked_eq]
    rfl
  | returning =>
    have once : min (saturate 8 (statistics.loyalty.toNat + policy.loyaltyStep.toNat)) loyaltyMax =
        min (statistics.loyalty.toNat + policy.loyaltyStep.toNat) loyaltyMax :=
      Nat.min_eq_left (Nat.min_le_right _ _)
    unfold countRepetitionChecked
    simp only [fadePressureChecked_eq, ok_bind, once]
    rfl

/-- Raises negative pressure for a low score and lets it fade otherwise. -/
def countNegativeChecked (statistics : Statistics) (score : UInt8) (policy : StatisticsPolicy) :
    Checked Statistics :=
  if score < policy.negativeThreshold then do
    let negative ← raisePressureChecked statistics.negative policy.negativeRate
    return { statistics with negative }
  else do
    let negative ← fadePressureChecked statistics.negative policy.decayShare
    return { statistics with negative }

theorem countNegativeChecked_eq (statistics : Statistics) (score : UInt8)
    (policy : StatisticsPolicy) :
    statistics.countNegativeChecked score policy =
      .ok (statistics.countNegative score policy) := by
  unfold countNegativeChecked countNegative
  split
  · rw [raisePressureChecked_eq]
    rfl
  · rw [fadePressureChecked_eq]
    rfl

/-- Takes in the time since the last event; the first one is taken over as it is. -/
def countGapChecked (statistics : Statistics) (gap : Option UInt64) (policy : StatisticsPolicy) :
    Checked Statistics :=
  match gap with
  | none => return statistics
  | some gap => do
    let hundredths ← log2CentiChecked gap.toNat
    let observed := min hundredths arrivalMax
    if statistics.arrivalSeeded then
      let arrival ← blendWordChecked statistics.arrival observed policy.arrivalRate
      return { statistics with arrivalSeeded := true, arrival }
    else return { statistics with arrivalSeeded := true, arrival := UInt32.ofNat observed }

theorem countGapChecked_eq (statistics : Statistics) (gap : Option UInt64)
    (policy : StatisticsPolicy) :
    statistics.countGapChecked gap policy = .ok (statistics.countGap gap policy) := by
  cases gap with
  | none => rfl
  | some gap =>
    have observed : min (log2Centi gap.toNat) arrivalMax < 2 ^ 32 :=
      Nat.lt_of_le_of_lt (Nat.min_le_right _ _) (by decide)
    unfold countGapChecked countGap
    simp only [log2CentiChecked_eq gap.toNat_lt, ok_bind, blendWordChecked_eq _ observed]
    split
    · rfl
    · rfl

/-- Brings the peak and the deepest fall up to date. -/
def trackDrawdownChecked (statistics : Statistics) : Checked Statistics := do
  let peak := max statistics.peak.toNat statistics.slow.toNat
  let fall ← sub peak statistics.slow.toNat
  return { statistics with
    peak := UInt32.ofNat peak
    drawdown := UInt32.ofNat (max statistics.drawdown.toNat fall) }

theorem trackDrawdownChecked_eq (statistics : Statistics) :
    statistics.trackDrawdownChecked = .ok statistics.trackDrawdown := by
  unfold trackDrawdownChecked
  simp only [sub_eq (Nat.le_max_right statistics.peak.toNat statistics.slow.toNat)]
  rfl

/-- The statistics after an accepted score. -/
def updateChecked (statistics : Statistics) (sample : Sample) (policy : StatisticsPolicy) :
    Checked Statistics := do
  let target ← liftScoreChecked sample.score
  let moved ← statistics.moveAveragesChecked target policy
  let swung ← moved.moveVolatilityChecked policy
  let repeated ← swung.countRepetitionChecked sample.repetition policy
  let pressed ← repeated.countNegativeChecked sample.score policy
  let spaced ← pressed.countGapChecked sample.gap policy
  spaced.trackDrawdownChecked

/-- **A score has no fault on any statistics.** -/
theorem updateChecked_eq (statistics : Statistics) (sample : Sample) (policy : StatisticsPolicy) :
    statistics.updateChecked sample policy = .ok (statistics.update sample policy) := by
  rw [updateChecked, liftScoreChecked_eq, ok_bind, moveAveragesChecked_eq _ (liftScore_lt _),
    ok_bind, moveVolatilityChecked_eq, ok_bind, countRepetitionChecked_eq, ok_bind,
    countNegativeChecked_eq, ok_bind, countGapChecked_eq, ok_bind, trackDrawdownChecked_eq]
  rfl

/-- One step towards the mean of the remembered scores, if there are any. -/
def approachChecked (statistics : Statistics) (liveMean : Option UInt8)
    (policy : StatisticsPolicy) : Checked Statistics :=
  match liveMean with
  | some mean => do
    let target ← liftScoreChecked mean
    statistics.moveAveragesChecked target policy
  | none => return statistics

/-- Some relief from negative pressure if the revoked score was a low one. -/
def relieveChecked (statistics : Statistics) (revoked : UInt8) (policy : StatisticsPolicy) :
    Checked Statistics :=
  if revoked < policy.negativeThreshold then do
    let negative ← fadePressureChecked statistics.negative policy.decayShare
    return { statistics with negative }
  else return statistics

/-- The statistics after a score was revoked. -/
def correctChecked (statistics : Statistics) (revoked : UInt8) (liveMean : Option UInt8)
    (policy : StatisticsPolicy) : Checked Statistics := do
  let moved ← statistics.approachChecked liveMean policy
  let relieved ← moved.relieveChecked revoked policy
  relieved.trackDrawdownChecked

/-- **A revocation has no fault on any statistics.** -/
theorem correctChecked_eq (statistics : Statistics) (revoked : UInt8) (liveMean : Option UInt8)
    (policy : StatisticsPolicy) :
    statistics.correctChecked revoked liveMean policy =
      .ok (statistics.correct revoked liveMean policy) := by
  have relieved (moved : Statistics) : moved.relieveChecked revoked policy =
      .ok (if revoked < policy.negativeThreshold then
        { moved with negative := fadePressure moved.negative policy.decayShare } else moved) := by
    unfold relieveChecked
    split
    · rw [fadePressureChecked_eq]
      rfl
    · rfl
  cases liveMean with
  | none =>
    show (statistics.relieveChecked revoked policy >>= _) = _
    rw [relieved, ok_bind, trackDrawdownChecked_eq]
    rfl
  | some mean =>
    have moved : statistics.approachChecked (some mean) policy =
        .ok (statistics.moveAverages (liftScore mean) policy) := by
      rw [approachChecked, liftScoreChecked_eq, ok_bind, moveAveragesChecked_eq _ (liftScore_lt _)]
    rw [correctChecked, moved, ok_bind, relieved, ok_bind, trackDrawdownChecked_eq]
    rfl

end Statistics

/-! ### Diversity, confidence and quality -/

/-- The share of distinct raters among the feedbacks. -/
def diversityOfChecked (raters feedbacks : UInt32) : Checked UInt8 := do
  let share ←
    proportionChecked (min raters.toNat feedbacks.toNat) feedbacks.toNat diversityMax
  byte share

theorem diversityOfChecked_eq (raters feedbacks : UInt32) :
    diversityOfChecked raters feedbacks = .ok (diversityOf raters feedbacks) := by
  have low : proportion (min raters.toNat feedbacks.toNat) feedbacks.toNat diversityMax < 2 ^ 8 :=
    Nat.lt_of_le_of_lt (proportion_le _ _ _) (by decide)
  rw [diversityOfChecked, proportionChecked_eq, ok_bind, byte_eq low]
  rfl

/-- The part of confidence that comes from the number of feedbacks. What is added after cold start
stops at the largest word. -/
def baseConfidenceChecked (feedbacks : Nat) (policy : ConfidencePolicy) : Checked Nat :=
  if feedbacks < policy.coldStartSamples.toNat then mul 64 feedbacks policy.coldStartStep.toNat
  else do
    let further ← sub feedbacks policy.coldStartSamples.toNat
    let grown := saturate 64
      (policy.coldStartFloor.toNat + saturate 64 (further * policy.perFeedback.toNat))
    return min grown policy.ceiling.toNat

/-- A count times a byte. -/
theorem count_mul_byte_lt {count : Nat} (word : count < 2 ^ 32) (byte : UInt8) :
    count * byte.toNat < 2 ^ 40 := by
  have small := byte.toNat_lt
  have product : count * byte.toNat ≤ (2 ^ 32 - 1) * 255 := Nat.mul_le_mul (by omega) (by omega)
  omega

theorem baseConfidenceChecked_eq {feedbacks : Nat} (word : feedbacks < 2 ^ 32)
    (policy : ConfidencePolicy) :
    baseConfidenceChecked feedbacks policy = .ok (baseConfidence feedbacks policy) := by
  have floor := policy.coldStartFloor.toNat_lt
  have grown := count_mul_byte_lt
    (show feedbacks - policy.coldStartSamples.toNat < 2 ^ 32 by omega) policy.perFeedback
  have started := count_mul_byte_lt word policy.coldStartStep
  have inner := saturate_eq (Nat.lt_trans grown (show 2 ^ 40 < 2 ^ 64 by decide))
  show _ = Except.ok (if feedbacks < policy.coldStartSamples.toNat then _ else _)
  unfold baseConfidenceChecked
  split
  · exact mul_eq (by omega)
  · rename_i warm
    rw [sub_eq (Nat.le_of_not_lt warm), ok_bind]
    show Except.ok (min (saturate 64 _) _) = _
    rw [inner, saturate_eq (by omega)]

theorem baseConfidence_lt {feedbacks : Nat} (word : feedbacks < 2 ^ 32)
    (policy : ConfidencePolicy) : baseConfidence feedbacks policy < 2 ^ 40 := by
  have ceiling := policy.ceiling.toNat_lt
  have started := count_mul_byte_lt word policy.coldStartStep
  show (if feedbacks < policy.coldStartSamples.toNat then _ else _) < 2 ^ 40
  split <;> omega

/-- The confidence in an entity. -/
def confidenceOfChecked (inputs : ConfidenceInputs) (policy : ConfidencePolicy) :
    Checked UInt8 := do
  let base ← baseConfidenceChecked inputs.feedbacks.toNat policy
  let product ← mul 64 inputs.diversity.toNat policy.uniquenessMax.toNat
  let uniqueness ← divHalfUpChecked product diversityMax
  let spread := min (saturate 64 (inputs.epochs.toNat * policy.epochBonus.toNat))
    policy.epochBonusMax.toNat
  let quotient ← div inputs.loyalty.toNat (max policy.loyaltyDivisor.toNat 1)
  let sum ← add 64 base uniqueness
  let sum ← add 64 sum spread
  let sum ← add 64 sum (min quotient policy.loyaltyBonusMax.toNat)
  byte (min sum confidenceMax)

theorem confidenceOfChecked_eq (inputs : ConfidenceInputs) (policy : ConfidencePolicy) :
    confidenceOfChecked inputs policy = .ok (confidenceOf inputs policy) := by
  have base := baseConfidence_lt inputs.feedbacks.toNat_lt policy
  have diversity := inputs.diversity.toNat_lt
  have product := count_mul_byte_lt (show inputs.diversity.toNat < 2 ^ 32 by omega)
    policy.uniquenessMax
  have uniqueness :
      divHalfUp (inputs.diversity.toNat * policy.uniquenessMax.toNat) diversityMax ≤ 2 ^ 40 :=
    divHalfUp_le (Nat.le_trans (Nat.le_of_lt product) (by decide))
  have spread := count_mul_byte_lt inputs.epochs.toNat_lt policy.epochBonus
  have most := policy.epochBonusMax.toNat_lt
  have loyal := policy.loyaltyBonusMax.toNat_lt
  unfold confidenceOfChecked
  simp only [baseConfidenceChecked_eq inputs.feedbacks.toNat_lt, ok_bind]
  rw [mul_eq (by omega), ok_bind, divHalfUpChecked_eq (by omega), ok_bind, saturate_eq (by omega),
    div_eq (by omega), ok_bind, add_eq (by omega), ok_bind, add_eq (by omega), ok_bind,
    add_eq (by omega), ok_bind, byte_min (by decide)]
  rfl

/-- The quality of an entity. -/
def qualityOfChecked (fast slow : UInt32) (confidence : UInt8) (policy : ConfidencePolicy) :
    Checked UInt32 := do
  let drawn ← mul 64 fast.toNat (min policy.fastWeight.toNat 100)
  let weight ← sub 100 (min policy.fastWeight.toNat 100)
  let kept ← mul 64 slow.toNat weight
  let blended ← add 64 drawn kept
  let damped ← mul 64 blended (min confidence.toNat confidenceMax)
  let whole ← mul 64 100 100
  let rounded ← divHalfUpChecked damped whole
  let word ← narrow 32 (min rounded qualityMax)
  return UInt32.ofNat word

theorem qualityOfChecked_eq (fast slow : UInt32) (confidence : UInt8)
    (policy : ConfidencePolicy) :
    qualityOfChecked fast slow confidence policy =
      .ok (qualityOf fast slow confidence policy) := by
  have weight : min policy.fastWeight.toNat 100 ≤ 100 := Nat.min_le_right _ _
  have drawn : fast.toNat * min policy.fastWeight.toNat 100 ≤ (2 ^ 32 - 1) * 100 :=
    Nat.mul_le_mul (Nat.le_sub_one_of_lt fast.toNat_lt) weight
  have kept : slow.toNat * (100 - min policy.fastWeight.toNat 100) ≤ (2 ^ 32 - 1) * 100 :=
    Nat.mul_le_mul (Nat.le_sub_one_of_lt slow.toNat_lt) (Nat.sub_le _ _)
  have damped : (fast.toNat * min policy.fastWeight.toNat 100 +
      slow.toNat * (100 - min policy.fastWeight.toNat 100)) * min confidence.toNat confidenceMax ≤
        (2 ^ 32 - 1) * 200 * 100 :=
    Nat.mul_le_mul (by omega) (Nat.min_le_right _ _)
  rw [qualityOfChecked, mul_eq (by omega), ok_bind, sub_eq weight, ok_bind, mul_eq (by omega),
    ok_bind, add_eq (by omega), ok_bind, mul_eq (by omega), ok_bind, mul_eq (by decide), ok_bind,
    divHalfUpChecked_eq (by omega), ok_bind, narrow_min (by decide)]
  rfl

/-! ### Risk -/

namespace RiskSignals

/-- Falls from full to none as diversity rises, and is none without feedback. -/
def sybilOfChecked (feedbacks diversity : Nat) : Checked Nat :=
  if feedbacks = 0 then return 0
  else do
    let scaled ← proportionChecked diversity diversityMax riskMax
    sub riskMax scaled

theorem sybilOfChecked_eq (feedbacks diversity : Nat) :
    sybilOfChecked feedbacks diversity = .ok (sybilOf feedbacks diversity) := by
  unfold sybilOfChecked sybilOf
  split
  · rfl
  · rw [proportionChecked_eq, ok_bind, sub_eq (proportion_le _ _ _)]

/-- Falls from full to none as volatility rises, and is none before there are enough samples. -/
def stagnationOfChecked (feedbacks samples volatility reference : Nat) : Checked Nat := do
  let scaled ← proportionChecked volatility reference riskMax
  if samples ≤ feedbacks then sub riskMax scaled else return 0

theorem stagnationOfChecked_eq (feedbacks samples volatility reference : Nat) :
    stagnationOfChecked feedbacks samples volatility reference =
      .ok (stagnationOf feedbacks samples volatility reference) := by
  unfold stagnationOfChecked stagnationOf
  rw [proportionChecked_eq, ok_bind]
  split
  · rw [sub_eq (proportion_le _ _ _)]
  · rfl

/-- The higher of the distance of the averages and the negative pressure. -/
def shockOfChecked (gap reference negative : Nat) : Checked Nat := do
  let apart ← proportionChecked gap reference riskMax
  let pressed ← proportionChecked negative pressureMax riskMax
  return max apart pressed

theorem shockOfChecked_eq (gap reference negative : Nat) :
    shockOfChecked gap reference negative = .ok (shockOf gap reference negative) := by
  rw [shockOfChecked, proportionChecked_eq, ok_bind, proportionChecked_eq]
  rfl

/-- Rises as the arrival average falls below the reference, and is none before it is seeded. -/
def arrivalOfChecked (seeded : Bool) (arrival reference : Nat) : Checked Nat :=
  if seeded ∧ arrival < reference then do
    let short ← sub reference arrival
    proportionChecked short reference riskMax
  else return 0

theorem arrivalOfChecked_eq (seeded : Bool) (arrival reference : Nat) :
    arrivalOfChecked seeded arrival reference = .ok (arrivalOf seeded arrival reference) := by
  unfold arrivalOfChecked arrivalOf
  split
  · rename_i dense
    rw [sub_eq (Nat.le_of_lt dense.2), ok_bind, proportionChecked_eq]
  · rfl

/-- A percentage fits a byte. -/
theorem byte_of_percentage {signal : Nat} (percentage : signal ≤ riskMax) :
    byte signal = .ok (UInt8.ofNat signal) :=
  byte_eq (Nat.lt_of_le_of_lt percentage (by decide))

/-- The signals of an entity. -/
def computeChecked (inputs : RiskInputs) (policy : RiskPolicy) (samples : UInt32) :
    Checked RiskSignals := do
  let statistics := inputs.statistics
  let feedbacks := inputs.feedbacks.toNat
  let volatility := statistics.volatility.toNat
  let sybil ← sybilOfChecked feedbacks inputs.diversity.toNat
  let burst ← proportionChecked statistics.burst.toNat pressureMax riskMax
  let stagnation ←
    stagnationOfChecked feedbacks samples.toNat volatility policy.stagnationReference.toNat
  let shock ← shockOfChecked (distance statistics.fast.toNat statistics.slow.toNat)
    policy.shockReference.toNat statistics.negative.toNat
  let swing ← proportionChecked volatility policy.volatilityReference.toNat riskMax
  let arrival ← arrivalOfChecked statistics.arrivalSeeded statistics.arrival.toNat
    policy.arrivalReference.toNat
  return {
    sybil := ← byte sybil
    burst := ← byte burst
    stagnation := ← byte stagnation
    shock := ← byte shock
    volatility := ← byte swing
    arrival := ← byte arrival }

theorem computeChecked_eq (inputs : RiskInputs) (policy : RiskPolicy) (samples : UInt32) :
    computeChecked inputs policy samples = .ok (compute inputs policy samples) := by
  unfold computeChecked
  simp only [sybilOfChecked_eq, stagnationOfChecked_eq, shockOfChecked_eq, arrivalOfChecked_eq,
    proportionChecked_eq, ok_bind, byte_of_percentage (sybilOf_le _ _),
    byte_of_percentage (stagnationOf_le _ _ _ _), byte_of_percentage (shockOf_le _ _ _),
    byte_of_percentage (arrivalOf_le _ _ _), byte_of_percentage (proportion_le _ _ _)]
  rfl

/-- The mean of the signals by their weights. -/
def weightedChecked (signals : RiskSignals) (policy : RiskPolicy) : Checked UInt8 := do
  let products ← (signals.pairs policy).mapM fun pair => mul 64 pair.1.toNat pair.2.toNat
  let sum ← sumChecked products
  let mean ← divHalfUpChecked sum 100
  byte (min mean riskMax)

theorem byte_mul_byte_le (one other : UInt8) : one.toNat * other.toNat ≤ 255 * 255 :=
  Nat.mul_le_mul (Nat.le_of_lt_succ one.toNat_lt) (Nat.le_of_lt_succ other.toNat_lt)

theorem weightedChecked_eq (signals : RiskSignals) (policy : RiskPolicy) :
    signals.weightedChecked policy = .ok (signals.weighted policy) := by
  have products : (signals.pairs policy).mapM (fun pair => mul 64 pair.1.toNat pair.2.toNat) =
      .ok ((signals.pairs policy).map fun pair => pair.1.toNat * pair.2.toNat) := by
    rw [mapM_eq_ok, List.map_map]
    exact List.map_congr_left fun pair _ =>
      mul_eq (Nat.lt_of_le_of_lt (byte_mul_byte_le _ _) (by decide))
  have bounded : signals.weightedSum policy ≤ 6 * (255 * 255) := by
    rw [← total_pairs]
    refine total_le fun product member => ?_
    obtain ⟨pair, -, rfl⟩ := List.mem_map.mp member
    exact byte_mul_byte_le _ _
  have sum : sumChecked ((signals.pairs policy).map fun pair => pair.1.toNat * pair.2.toNat) =
      .ok (signals.weightedSum policy) := by
    rw [sumChecked_eq (by rw [total_pairs]; omega), total_pairs]
  rw [weightedChecked, products, ok_bind, sum, ok_bind, divHalfUpChecked_eq (by omega), ok_bind,
    byte_min (by decide)]
  rfl

end RiskSignals

/-- The risk of an entity. -/
def riskOfChecked (inputs : RiskInputs) (policy : RiskPolicy) (samples : UInt32) :
    Checked UInt8 := do
  let signals ← RiskSignals.computeChecked inputs policy samples
  signals.weightedChecked policy

theorem riskOfChecked_eq (inputs : RiskInputs) (policy : RiskPolicy) (samples : UInt32) :
    riskOfChecked inputs policy samples = .ok (riskOf inputs policy samples) := by
  rw [riskOfChecked, RiskSignals.computeChecked_eq, ok_bind, RiskSignals.weightedChecked_eq]
  rfl

end Reputation
