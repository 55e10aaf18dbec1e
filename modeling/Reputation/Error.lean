/-
**Errors.**

Everything that can go wrong, by cause. The words of a message are found here and nowhere else:
`Error.message` puts a cause into words.

A revocation that finds nothing to revoke is no error; it has an outcome of its own.
-/

import Reputation.Identity
import Reputation.Tier.Basic

namespace Reputation

/-- What is wrong with an event that is refused. -/
inductive InputFault where
  /-- The score is above the highest one. -/
  | scoreOutOfRange (score : UInt8)
  /-- The sequence index is zero. -/
  | sequenceZero
  /-- The event is earlier than the last one that was accepted. -/
  | timeBackwards (time last : UInt64)
deriving DecidableEq, Repr

/-- The counters of a record that can run full. -/
inductive Counter where
  | feedback
  | epochs
  | revoked
  | responses
deriving DecidableEq, Repr

/-- The averages whose step is set in basis points. -/
inductive Rate where
  | fast
  | slow
  | volatility
  | arrival
  | burst
  | negative
deriving DecidableEq, Repr

/-- The values that a risk signal is measured against. -/
inductive Reference where
  | stagnation
  | shock
  | volatility
  | arrival
deriving DecidableEq, Repr

/-- The bound that a configuration breaks. -/
inductive BoundsFault where
  | residencyTime
  | bypassLimit
  | rate (which : Rate)
  | slowAboveFast
  | decayShare
  | negativeThreshold
  | coldStartSamples
  | confidenceCeiling
  | coldStartFloor
  | loyaltyDivisor
  | fastWeight
  | weightSum (sum : Nat)
  | reference (which : Reference)
  | epochLength
  | vesting
  | thresholdRange (tier : Tier)
  | ladder
deriving DecidableEq, Repr

/-- Why bytes or parts do not make up a record. -/
inductive RecordFault where
  | length (found : Nat)
  | version (found : UInt8)
  | register (value : UInt8)
  | slotScore (score : UInt8)
  | cursor
  | tier (code : UInt8)
  | cachedValue (entity : EntityId)
deriving DecidableEq, Repr

/-- Why a stored row does not give a record of its entity. -/
inductive RowFault where
  /-- The bytes are no record. -/
  | unreadable (fault : RecordFault)
  /-- The record belongs to another entity. -/
  | foreign (owner : EntityId)
deriving DecidableEq, Repr

/-- What can go wrong in the archive. -/
inductive ArchiveFault where
  /-- A table is not there. -/
  | missingTable (name : String)
  /-- The schema is newer than any that is known. -/
  | newerSchema (version : UInt32)
  /-- A row is corrupt. -/
  | corrupt (entity : EntityId) (fault : RowFault)
deriving DecidableEq, Repr

/-- The causes of failure. -/
inductive Error where
  /-- An event was refused, and nothing has changed. -/
  | validation (fault : InputFault)
  /-- A counter is full. -/
  | overflow (counter : Counter)
  /-- A configuration is out of bounds, and the one before it stays in force. -/
  | configBounds (fault : BoundsFault)
  /-- A configuration text cannot be read, or a configuration cannot be written as text. -/
  | configText
  /-- An entity has no record. -/
  | unknownEntity (entity : EntityId)
  /-- A record cannot be put together. -/
  | codec (fault : RecordFault)
  /-- The archive failed. -/
  | archive (fault : ArchiveFault)
  /-- A structured value does not have the form that was asked for. -/
  | form
deriving DecidableEq, Repr

/-- Whether an error comes from an event that was refused. -/
def Error.isValidation : Error → Bool
  | .validation _ => true
  | _ => false

/-! ### Wording -/

/-- The highest score. -/
def scoreMax : Nat := 100

/-- The length of an encoded record. -/
def recordLength : Nat := 1163

/-- The newest schema that is known. -/
def latestSchema : Nat := 1

/-- The field that is at fault. -/
def InputFault.field : InputFault → String
  | .scoreOutOfRange _ => "score"
  | .sequenceZero => "sequence_index"
  | .timeBackwards _ _ => "time_marker"

/-- What is wrong with the field. -/
def InputFault.reason : InputFault → String
  | .scoreOutOfRange score => s!"{score.toNat} is outside [0, {scoreMax}]"
  | .sequenceZero => "sequence indices start at 1"
  | .timeBackwards time last =>
    s!"{time.toNat} is earlier than the last event at {last.toNat}"

/-- The name of a counter. -/
def Counter.name : Counter → String
  | .feedback => "feedback_count"
  | .epochs => "epoch_count"
  | .revoked => "revoked_count"
  | .responses => "response_count"

/-- The configuration key of a rate. -/
def Rate.key : Rate → String
  | .fast => "stats.alpha_fast_bps"
  | .slow => "stats.alpha_slow_bps"
  | .volatility => "stats.alpha_volatility_bps"
  | .arrival => "stats.alpha_arrival_bps"
  | .burst => "stats.burst_alpha_up_bps"
  | .negative => "stats.neg_alpha_up_bps"

/-- The configuration key of a reference. -/
def Reference.key : Reference → String
  | .stagnation => "risk.stagnation_ref"
  | .shock => "risk.shock_ref"
  | .volatility => "risk.volatility_ref"
  | .arrival => "risk.arrival_fast_ref"

/-- The configuration key that a bound is about. -/
def BoundsFault.key : BoundsFault → String
  | .residencyTime => "ring.mrt_min_secs"
  | .bypassLimit => "ring.mrt_max_bypass"
  | .rate which => which.key
  | .slowAboveFast => "stats.alpha_slow_bps"
  | .decayShare => "stats.burst_decay_pct"
  | .negativeThreshold => "stats.neg_score_threshold"
  | .coldStartSamples => "confidence.cold_start_min_samples"
  | .confidenceCeiling => "confidence.ceiling"
  | .coldStartFloor => "confidence.cold_start_floor"
  | .loyaltyDivisor => "confidence.loyalty_divisor"
  | .fastWeight => "confidence.quality_fast_weight_pct"
  | .weightSum _ => "risk.weights"
  | .reference which => which.key
  | .epochLength => "tiers.epoch_length_secs"
  | .vesting => "tiers.vesting_epochs"
  | .thresholdRange _ => "tiers.threshold"
  | .ladder => "tiers.threshold"

/-- What a bound asks for. -/
def BoundsFault.reason : BoundsFault → String
  | .residencyTime => "must be at least 1"
  | .bypassLimit => "must be in 1..=10"
  | .rate _ => "must be in 1..=10000"
  | .slowAboveFast => "slow alpha must not exceed fast alpha"
  | .decayShare => "must be in 0..=99"
  | .negativeThreshold => "must be in 0..=100"
  | .coldStartSamples => "must be at least 1"
  | .confidenceCeiling => "must be at most 100"
  | .coldStartFloor => "must not exceed the ceiling"
  | .loyaltyDivisor => "must be at least 1"
  | .fastWeight => "must be in 0..=100"
  | .weightSum sum => s!"weights must sum to 100, got {sum}"
  | .reference _ => "must be at least 1"
  | .epochLength => "must be at least 1"
  | .vesting => "must be in 1..=1024"
  | .thresholdRange tier => s!"{tier.name} threshold exceeds the metric ranges"
  | .ladder => "thresholds must get strictly harder from bronze to platinum"

/-- A record fault in words. -/
def RecordFault.message : RecordFault → String
  | .length found => s!"record is {found} bytes, expected {recordLength}"
  | .version found => s!"unsupported record version {found.toNat}"
  | .register value => s!"cardinality register value {value.toNat} exceeds 15"
  | .slotScore score => s!"slot score {score.toNat} exceeds {scoreMax}"
  | .cursor => "recency cursor out of range"
  | .tier code => s!"unknown tier byte {code.toNat}"
  | .cachedValue entity => s!"entity {entity.text} has a cached value out of range"

/-- A row fault in words. -/
def RowFault.message : RowFault → String
  | .unreadable fault => s!"record codec error: {fault.message}"
  | .foreign owner => s!"blob belongs to entity {owner.text}"

/-- An archive fault in words. -/
def ArchiveFault.message : ArchiveFault → String
  | .missingTable name => s!"no such table: {name}"
  | .newerSchema version =>
    s!"migration failed at version {version.toNat}: " ++
      s!"database is newer than this build (latest {latestSchema})"
  | .corrupt entity fault => s!"corrupt record for entity {entity.text}: {fault.message}"

/-- An error in words. -/
def Error.message : Error → String
  | .validation fault => s!"validation failed for {fault.field}: {fault.reason}"
  | .overflow counter => s!"counter overflow: {counter.name}"
  | .configBounds fault => s!"config value out of bounds for {fault.key}: {fault.reason}"
  | .configText => "config parse error"
  | .unknownEntity entity => s!"unknown entity: {entity.text}"
  | .codec fault => s!"record codec error: {fault.message}"
  | .archive fault => s!"storage error: {fault.message}"
  | .form => "serialization error"

end Reputation
