/-
**Risk.**

Six signals, each a percentage:

* sybil: few distinct raters for the number of feedbacks;
* burst: the same raters come back in quick succession;
* stagnation: the fast and the slow average never come apart;
* shock: the averages are far apart, or low scores pile up;
* volatility: the distance of the averages keeps changing;
* arrival: events follow each other faster than the reference.

The risk is their mean by the weights of the configuration.
-/

import Reputation.Config.Bounds
import Reputation.Score.Confidence
import Reputation.Score.Statistics

namespace Reputation

/-- What the risk signals are made of. -/
structure RiskInputs where
  feedbacks : UInt32
  diversity : UInt8
  statistics : Statistics
deriving DecidableEq, Repr

/-- The six signals. -/
structure RiskSignals where
  sybil : UInt8
  burst : UInt8
  stagnation : UInt8
  shock : UInt8
  volatility : UInt8
  arrival : UInt8
deriving DecidableEq, Repr

namespace RiskSignals

/-- Falls from full to none as diversity rises, and is none without feedback. -/
def sybilOf (feedbacks diversity : Nat) : Nat :=
  if feedbacks = 0 then 0 else riskMax - proportion diversity diversityMax riskMax

/-- Falls from full to none as volatility rises, and is none before there are enough samples. -/
def stagnationOf (feedbacks samples volatility reference : Nat) : Nat :=
  if samples ≤ feedbacks then riskMax - proportion volatility reference riskMax else 0

/-- The higher of the distance of the averages and the negative pressure. -/
def shockOf (gap reference negative : Nat) : Nat :=
  max (proportion gap reference riskMax) (proportion negative pressureMax riskMax)

/-- Rises as the arrival average falls below the reference, and is none before it is seeded. -/
def arrivalOf (seeded : Bool) (arrival reference : Nat) : Nat :=
  if seeded ∧ arrival < reference then proportion (reference - arrival) reference riskMax else 0

/-- The signals of an entity. -/
def compute (inputs : RiskInputs) (policy : RiskPolicy) (samples : UInt32) : RiskSignals :=
  let statistics := inputs.statistics
  let feedbacks := inputs.feedbacks.toNat
  let volatility := statistics.volatility.toNat
  let gap := distance statistics.fast.toNat statistics.slow.toNat
  { sybil := UInt8.ofNat (sybilOf feedbacks inputs.diversity.toNat)
    burst := UInt8.ofNat (proportion statistics.burst.toNat pressureMax riskMax)
    stagnation := UInt8.ofNat
      (stagnationOf feedbacks samples.toNat volatility policy.stagnationReference.toNat)
    shock := UInt8.ofNat (shockOf gap policy.shockReference.toNat statistics.negative.toNat)
    volatility := UInt8.ofNat (proportion volatility policy.volatilityReference.toNat riskMax)
    arrival := UInt8.ofNat
      (arrivalOf statistics.arrivalSeeded statistics.arrival.toNat
        policy.arrivalReference.toNat) }

/-- The sum of the signals, each times its weight. -/
def weightedSum (signals : RiskSignals) (policy : RiskPolicy) : Nat :=
  signals.sybil.toNat * policy.sybilWeight.toNat +
    signals.burst.toNat * policy.burstWeight.toNat +
    signals.stagnation.toNat * policy.stagnationWeight.toNat +
    signals.shock.toNat * policy.shockWeight.toNat +
    signals.volatility.toNat * policy.volatilityWeight.toNat +
    signals.arrival.toNat * policy.arrivalWeight.toNat

/-- The mean of the signals by their weights. -/
def weighted (signals : RiskSignals) (policy : RiskPolicy) : UInt8 :=
  UInt8.ofNat (min (divHalfUp (signals.weightedSum policy) 100) riskMax)

end RiskSignals

/-- The risk of an entity. -/
def riskOf (inputs : RiskInputs) (policy : RiskPolicy) (samples : UInt32) : UInt8 :=
  (RiskSignals.compute inputs policy samples).weighted policy

end Reputation
