/-
**Configuration.**

The settings of the engine, by subject. A configuration that says nothing has the values given
here. Shares are percentages or basis points, times are seconds.

`Config.check` finds the first bound that a configuration breaks; it is kept apart from reading, so
that a configuration out of bounds can be held and reported.
-/

import Reputation.Error
import Reputation.Numeric.Blend

namespace Reputation

/-- How long remembered feedback is kept from being pushed out. -/
structure RingPolicy where
  /-- The seconds for which a window protects the ring. -/
  residencyTime : UInt64 := 3600
  /-- The writes that may pass the ring by in one window. -/
  bypassLimit : UInt8 := 10
deriving DecidableEq, Repr

/-- How fast the streaming statistics move. -/
structure StatisticsPolicy where
  fastRate : UInt32 := 2000
  slowRate : UInt32 := 500
  volatilityRate : UInt32 := 1000
  arrivalRate : UInt32 := 1000
  /-- The pull of a rapid repeat towards full burst pressure. -/
  burstRate : UInt32 := 3000
  /-- The percentage of a pressure that a quiet write leaves. -/
  decayShare : UInt8 := 90
  /-- Scores below this one raise negative pressure. -/
  negativeThreshold : UInt8 := 30
  negativeRate : UInt32 := 3000
  /-- A repeat after at least this time is loyal, a sooner one is rapid. -/
  loyaltyDelay : UInt64 := 86400
  /-- What a loyal repeat adds to loyalty. -/
  loyaltyStep : UInt8 := 1
deriving DecidableEq, Repr

/-- How confidence and quality are shaped. -/
structure ConfidencePolicy where
  /-- With fewer feedbacks an entity is in cold start. -/
  coldStartSamples : UInt32 := 5
  /-- The confidence per feedback in cold start. -/
  coldStartStep : UInt8 := 4
  /-- The base confidence at the end of cold start. -/
  coldStartFloor : UInt8 := 20
  /-- The base confidence added per feedback after cold start. -/
  perFeedback : UInt8 := 2
  /-- The most that the number of feedbacks can give after cold start. -/
  ceiling : UInt8 := 70
  uniquenessMax : UInt8 := 15
  /-- The confidence per active epoch. -/
  epochBonus : UInt8 := 2
  epochBonusMax : UInt8 := 10
  loyaltyDivisor : UInt8 := 2
  loyaltyBonusMax : UInt8 := 5
  /-- The percentage of the fast average in the quality. -/
  fastWeight : UInt8 := 40
deriving DecidableEq, Repr

/-- How the risk signals are measured and weighed. -/
structure RiskPolicy where
  sybilWeight : UInt8 := 30
  burstWeight : UInt8 := 20
  stagnationWeight : UInt8 := 10
  shockWeight : UInt8 := 15
  volatilityWeight : UInt8 := 10
  arrivalWeight : UInt8 := 15
  /-- The volatility from which on a stream is no longer flat. -/
  stagnationReference : UInt32 := 50
  /-- The distance of the averages that is a full shock. -/
  shockReference : UInt32 := 2500
  /-- The volatility that is full volatility. -/
  volatilityReference : UInt32 := 1500
  /-- The arrival average below which arrivals are dense. -/
  arrivalReference : UInt32 := 1000
deriving DecidableEq, Repr

/-- What an entity has to reach for a tier. -/
structure Threshold where
  minQuality : UInt32
  maxRisk : UInt8
  minConfidence : UInt8
deriving DecidableEq, Repr

/-- What the tiers ask for, and how long a candidate waits. -/
structure TierPolicy where
  /-- The length of an epoch. -/
  epochLength : UInt64 := 86400
  /-- The epochs for which a candidacy has to hold. -/
  vestingEpochs : UInt32 := 8
  bronze : Threshold := ⟨3000, 70, 20⟩
  silver : Threshold := ⟨5000, 55, 40⟩
  gold : Threshold := ⟨7000, 40, 60⟩
  platinum : Threshold := ⟨8500, 25, 80⟩
  /-- The loyalty without which no entity is platinum. -/
  platinumLoyalty : UInt8 := 10
deriving DecidableEq, Repr

/-- How the engine reports what it does. -/
structure ReportPolicy where
  /-- The least level that is reported. -/
  level : String := "info"
  /-- Whether reports are written as JSON. -/
  json : Bool := false
deriving DecidableEq, Repr

/-- The settings of the engine. -/
structure Config where
  ring : RingPolicy := {}
  statistics : StatisticsPolicy := {}
  confidence : ConfidencePolicy := {}
  risk : RiskPolicy := {}
  tiers : TierPolicy := {}
  report : ReportPolicy := {}
deriving DecidableEq, Repr

/-- What a tier asks for; the unrated tier asks for nothing. -/
def TierPolicy.threshold? (policy : TierPolicy) : Tier → Option Threshold
  | .unrated => none
  | .bronze => some policy.bronze
  | .silver => some policy.silver
  | .gold => some policy.gold
  | .platinum => some policy.platinum

/-- The sum of the weights of the risk signals. -/
def RiskPolicy.weightSum (policy : RiskPolicy) : Nat :=
  policy.sybilWeight.toNat + policy.burstWeight.toNat + policy.stagnationWeight.toNat +
    policy.shockWeight.toNat + policy.volatilityWeight.toNat + policy.arrivalWeight.toNat

/-- The epoch of a time. -/
def TierPolicy.epochOf (policy : TierPolicy) (time : UInt64) : UInt64 :=
  UInt64.ofNat (time.toNat / max policy.epochLength.toNat 1)

end Reputation
