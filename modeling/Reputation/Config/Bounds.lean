/-
**Bounds of a configuration.**

The sections are checked in order, and inside a section its bounds in order; the first bound that
is broken is the one that is reported.
-/

import Reputation.Config.Basic

namespace Reputation

/-- The slots of the ring. -/
def ringCapacity : Nat := 24

/-- The slots of the bypass list. -/
def bypassCapacity : Nat := 10

/-- The highest quality. -/
def qualityMax : Nat := 10000

/-- The highest risk. -/
def riskMax : Nat := 100

/-- The highest confidence. -/
def confidenceMax : Nat := 100

/-- Fails with the given fault unless a bound is kept. -/
def require (kept : Bool) (fault : BoundsFault) : Except BoundsFault Unit :=
  if kept then .ok () else .error fault

/-- A rate is at least one basis point and at most the whole. -/
def requireRate (value : UInt32) (rate : Rate) : Except BoundsFault Unit :=
  require (1 ≤ value.toNat && value.toNat ≤ basisPoints) (.rate rate)

/-- The bounds of the ring. -/
def RingPolicy.check (policy : RingPolicy) : Except BoundsFault Unit := do
  require (policy.residencyTime != 0) .residencyTime
  require (policy.bypassLimit != 0 && policy.bypassLimit.toNat ≤ bypassCapacity) .bypassLimit

/-- The bounds of the statistics. -/
def StatisticsPolicy.check (policy : StatisticsPolicy) : Except BoundsFault Unit := do
  requireRate policy.fastRate .fast
  requireRate policy.slowRate .slow
  requireRate policy.volatilityRate .volatility
  requireRate policy.arrivalRate .arrival
  requireRate policy.burstRate .burst
  requireRate policy.negativeRate .negative
  require (policy.slowRate.toNat ≤ policy.fastRate.toNat) .slowAboveFast
  require (policy.decayShare.toNat ≤ 99) .decayShare
  require (policy.negativeThreshold.toNat ≤ 100) .negativeThreshold

/-- The bounds of confidence and quality. -/
def ConfidencePolicy.check (policy : ConfidencePolicy) : Except BoundsFault Unit := do
  require (policy.coldStartSamples != 0) .coldStartSamples
  require (policy.ceiling.toNat ≤ confidenceMax) .confidenceCeiling
  require (policy.coldStartFloor.toNat ≤ policy.ceiling.toNat) .coldStartFloor
  require (policy.loyaltyDivisor != 0) .loyaltyDivisor
  require (policy.fastWeight.toNat ≤ 100) .fastWeight

/-- The bounds of the risk signals. -/
def RiskPolicy.check (policy : RiskPolicy) : Except BoundsFault Unit := do
  require (policy.weightSum == 100) (.weightSum policy.weightSum)
  require (policy.stagnationReference != 0) (.reference .stagnation)
  require (policy.shockReference != 0) (.reference .shock)
  require (policy.volatilityReference != 0) (.reference .volatility)
  require (policy.arrivalReference != 0) (.reference .arrival)

/-- Whether a threshold asks for values that can be reached at all. -/
def Threshold.inRange (threshold : Threshold) : Bool :=
  threshold.minQuality.toNat ≤ qualityMax && threshold.maxRisk.toNat ≤ riskMax &&
    threshold.minConfidence.toNat ≤ confidenceMax

/-- Whether a threshold asks for more than another one in every respect. -/
def Threshold.harderThan (harder easier : Threshold) : Bool :=
  easier.minQuality < harder.minQuality && harder.maxRisk < easier.maxRisk &&
    easier.minConfidence < harder.minConfidence

/-- The bounds of the tiers: every threshold can be reached, and each rung of the ladder is harder
than the one below. -/
def TierPolicy.check (policy : TierPolicy) : Except BoundsFault Unit := do
  require (policy.epochLength != 0) .epochLength
  require (1 ≤ policy.vestingEpochs.toNat && policy.vestingEpochs.toNat ≤ 1024) .vesting
  require policy.bronze.inRange (.thresholdRange .bronze)
  require policy.silver.inRange (.thresholdRange .silver)
  require policy.gold.inRange (.thresholdRange .gold)
  require policy.platinum.inRange (.thresholdRange .platinum)
  require (policy.silver.harderThan policy.bronze) .ladder
  require (policy.gold.harderThan policy.silver) .ladder
  require (policy.platinum.harderThan policy.gold) .ladder

/-- The first bound that a configuration breaks, if any. -/
def Config.boundsFault (config : Config) : Except BoundsFault Unit := do
  config.ring.check
  config.statistics.check
  config.confidence.check
  config.risk.check
  config.tiers.check

/-- Fails with the first bound that a configuration breaks. -/
def Config.check (config : Config) : Except Error Unit :=
  config.boundsFault.mapError .configBounds

end Reputation
