/-
**Records.**

Everything that is known of an entity. A record never grows: it holds 256 registers, 24 and 10
slots, three heads and some numbers. Diversity, confidence, quality and risk are worked out again
at every accepted event and kept.
-/

import Reputation.Event.Chain
import Reputation.Raters.Cardinality
import Reputation.Raters.Recency
import Reputation.Score.Risk
import Reputation.Tier.Machine

namespace Reputation

/-- Everything that is known of an entity. -/
structure Record where
  entity : EntityId
  salt : UInt64
  cardinality : Cardinality
  recency : Recency
  statistics : Statistics
  tier : TierMachine
  heads : Heads
  quality : UInt32
  risk : UInt8
  confidence : UInt8
  diversity : UInt8
  feedbackCount : UInt32
  revokedCount : UInt32
  responseCount : UInt32
  minScore : UInt8
  maxScore : UInt8
  firstScore : UInt8
  lastScore : UInt8
  /-- The number of times that the epoch changed from one feedback to the next, and one. -/
  epochCount : UInt32
  currentEpoch : UInt64
  firstSeen : UInt64
  /-- The time of the last accepted feedback. -/
  lastSeen : UInt64
deriving DecidableEq, Repr

/-- What is shown of an entity. -/
structure Summary where
  entity : EntityId
  tier : Tier
  quality : UInt32
  risk : UInt8
  confidence : UInt8
  diversity : UInt8
  feedbackCount : UInt32
  raters : UInt32
  fast : UInt32
  slow : UInt32
  loyalty : UInt8
  firstSeen : UInt64
  lastSeen : UInt64
deriving DecidableEq, Repr

namespace Record

/-- A record without any event, opened at the given time. -/
def empty (entity : EntityId) (salt firstSeen : UInt64) : Record where
  entity
  salt
  cardinality := .empty
  recency := .empty firstSeen
  statistics := {}
  tier := {}
  heads := {}
  quality := 0
  risk := 0
  confidence := 0
  diversity := 0
  feedbackCount := 0
  revokedCount := 0
  responseCount := 0
  minScore := 0
  maxScore := 0
  firstScore := 0
  lastScore := 0
  epochCount := 0
  currentEpoch := 0
  firstSeen
  lastSeen := firstSeen

/-- The estimated number of distinct raters. -/
def raters (record : Record) : UInt32 := record.cardinality.estimate

/-- The tier that others see. -/
def trustTier (record : Record) : Tier := record.tier.effective

/-- What is shown of an entity. -/
def summary (record : Record) : Summary where
  entity := record.entity
  tier := record.trustTier
  quality := record.quality
  risk := record.risk
  confidence := record.confidence
  diversity := record.diversity
  feedbackCount := record.feedbackCount
  raters := record.raters
  fast := record.statistics.fast
  slow := record.statistics.slow
  loyalty := record.statistics.loyalty
  firstSeen := record.firstSeen
  lastSeen := record.lastSeen

/-- One more, unless the counter is full. -/
def increment (count : UInt32) (counter : Counter) : Except Error UInt32 :=
  if count.toNat = 2 ^ 32 - 1 then .error (.overflow counter) else .ok (count + 1)

/-- Counts a feedback and its score. -/
def countScore (record : Record) (score : UInt8) : Except Error Record := do
  let feedbackCount ← increment record.feedbackCount .feedback
  if record.feedbackCount = 0 then
    return { record with
      feedbackCount, firstScore := score, minScore := score, maxScore := score, lastScore := score }
  else
    return { record with
      feedbackCount
      minScore := if score < record.minScore then score else record.minScore
      maxScore := if record.maxScore < score then score else record.maxScore
      lastScore := score }

/-- Counts an epoch if it is another one than that of the feedback before, or if there is none. -/
def countEpoch (record : Record) (first : Bool) (epoch : UInt64) : Except Error Record := do
  if first || epoch != record.currentEpoch then
    let epochCount ← increment record.epochCount .epochs
    return { record with epochCount, currentEpoch := epoch }
  else
    return record

/-- Books a feedback: its score, its epoch and its time. -/
def book (record : Record) (score : UInt8) (time epoch : UInt64) : Except Error Record := do
  let counted ← record.countScore score
  let counted ← counted.countEpoch (record.feedbackCount = 0) epoch
  return { counted with lastSeen := time }

/-- What confidence is made of. -/
def confidenceInputs (record : Record) (diversity : UInt8) : ConfidenceInputs :=
  ⟨record.feedbackCount, diversity, record.epochCount, record.statistics.loyalty⟩

/-- What risk is made of. -/
def riskInputs (record : Record) (diversity : UInt8) : RiskInputs :=
  ⟨record.feedbackCount, diversity, record.statistics⟩

/-- Works out diversity, confidence, quality and risk again. -/
def recompute (record : Record) (config : Config) : Record :=
  let diversity := diversityOf record.raters record.feedbackCount
  let confidence := confidenceOf (record.confidenceInputs diversity) config.confidence
  { record with
    diversity
    confidence
    quality :=
      qualityOf record.statistics.fast record.statistics.slow confidence config.confidence
    risk := riskOf (record.riskInputs diversity) config.risk config.confidence.coldStartSamples }

/-- What the thresholds of the tiers are held against. -/
def metrics (record : Record) : TierMetrics :=
  ⟨record.quality, record.risk, record.confidence, record.statistics.loyalty⟩

/-- Works out the scores again and brings the tier up to date. -/
def rescore (record : Record) (epoch : UInt64) (config : Config) : Record × Transition :=
  let scored := record.recompute config
  let (tier, transition) := scored.tier.evaluate scored.metrics epoch config.tiers
  ({ scored with tier }, transition)

end Record

end Reputation
