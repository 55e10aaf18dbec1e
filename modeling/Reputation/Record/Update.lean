/-
**Events on a record.**

A feedback, a revocation or a response takes a record to a new one, or fails and gives none: no
half-done change is ever seen. An entity without a record gets one at its first feedback.

A revocation that finds nothing to revoke changes nothing and is no failure. Time is checked
against the last accepted feedback; a revocation does not move it on.
-/

import Reputation.Record.Basic

namespace Reputation

/-- What came of a feedback. -/
structure UpdateResult where
  entity : EntityId
  tier : Tier
  quality : UInt32
  confidence : UInt8
  risk : UInt8
  diversity : UInt8
  /-- Whether the rater was not remembered and raised a register. -/
  isUnique : Bool
  placement : Placement
  transition : Transition
deriving DecidableEq, Repr

/-- Whether a revocation took effect, and why not. -/
inductive RevokeOutcome where
  | revoked
  | notFound
  | alreadyRevoked
deriving DecidableEq, Repr

/-- What came of a revocation. -/
structure RevokeResult where
  entity : EntityId
  originalScore : Option UInt8
  hadImpact : Bool
  outcome : RevokeOutcome
  newTier : Tier
  newQuality : UInt32
  newConfidence : UInt8
deriving DecidableEq, Repr

/-- What came of a response. -/
structure ResponseResult where
  entity : EntityId
  responseCount : UInt32
  responseHead : Digest
deriving DecidableEq, Repr

/-- A feedback taken in. -/
structure Ingested where
  record : Record
  result : UpdateResult
deriving DecidableEq, Repr

/-- A revocation carried out. -/
structure Revoked where
  /-- The new record, none if nothing was revoked. -/
  record : Option Record
  result : RevokeResult
  transition : Transition
deriving DecidableEq, Repr

/-- A response taken in. -/
structure Responded where
  record : Record
  result : ResponseResult
deriving DecidableEq, Repr

namespace Record

/-- An event is no earlier than the last accepted feedback. -/
def checkTime (record : Record) (time : UInt64) : Except Error Unit :=
  if time < record.lastSeen then .error (.validation (.timeBackwards time record.lastSeen))
  else .ok ()

/-- The record that a feedback is taken into. -/
def opened (hashing : Hashing) (current : Option Record) (event : Feedback) :
    Except Error Record :=
  match current with
  | some record => do
    record.checkTime event.time
    return record
  | none =>
    return .empty event.entity (entitySalt hashing event.entity event.rater event.time) event.time

/-- The time since the last feedback, none at the first. -/
def gapAt (record : Record) (time : UInt64) : Option UInt64 :=
  if record.feedbackCount = 0 then none else some (time - record.lastSeen)

/-- A feedback remembered: the slot written, the registers raised, the statistics moved. A rater who
is remembered already is not put to the registers again. -/
def remember (record : Record) (fingerprint : Fingerprint) (event : Feedback) (config : Config) :
    Record × Placement × Bool :=
  let (recency, outcome) :=
    record.recency.write config.ring fingerprint event.score event.sequence event.time
  let isUnique := !outcome.placement.isRepeat && record.cardinality.isRaisedBy fingerprint
  let cardinality :=
    if outcome.placement.isRepeat then record.cardinality
    else record.cardinality.observe fingerprint
  let repetition := Repetition.classify (outcome.previous.map (·.writtenAt)) event.time
    config.statistics.loyaltyDelay
  let statistics := record.statistics.update ⟨event.score, record.gapAt event.time, repetition⟩
    config.statistics
  ({ record with recency, cardinality, statistics }, outcome.placement, isUnique)

/-- Takes in a feedback. -/
def ingest (hashing : Hashing) (config : Config) (current : Option Record) (event : Feedback) :
    Except Error Ingested := do
  event.check
  let record ← opened hashing current event
  let fingerprint := Fingerprint.of hashing record.salt event.entity event.rater
  let (remembered, placement, isUnique) := record.remember fingerprint event config
  let epoch := config.tiers.epochOf event.time
  let booked ← remembered.book event.score event.time epoch
  let (scored, transition) := booked.rescore epoch config
  let record := { scored with
    heads := scored.heads.append hashing .feedback (event.leaf.hash hashing) }
  return {
    record
    result :=
      { entity := event.entity
        tier := record.trustTier
        quality := record.quality
        confidence := record.confidence
        risk := record.risk
        diversity := record.diversity
        isUnique
        placement
        transition } }

/-- A revocation that changed nothing; an entity without a record is unrated and has no scores. -/
def unrevoked (current : Option Record) (event : Revocation) (outcome : RevokeOutcome) :
    Revoked where
  record := none
  result :=
    { entity := event.entity
      originalScore := none
      hadImpact := false
      outcome
      newTier := current.elim .unrated (·.trustTier)
      newQuality := current.elim 0 (·.quality)
      newConfidence := current.elim 0 (·.confidence) }
  transition := .unchanged

/-- The record after its slot was marked: the statistics corrected, the revocation counted, the
scores worked out again and the chain made longer. -/
def settleRevocation (record : Record) (hashing : Hashing) (config : Config) (event : Revocation)
    (score : UInt8) : Except Error Revoked := do
  let statistics := record.statistics.correct score record.recency.liveMean config.statistics
  let revokedCount ← increment record.revokedCount .revoked
  let (scored, transition) :=
    { record with statistics, revokedCount }.rescore (config.tiers.epochOf event.time) config
  let record := { scored with
    heads := scored.heads.append hashing .revocation (event.leaf.hash hashing) }
  return {
    record := some record
    result :=
      { entity := event.entity
        originalScore := some score
        hadImpact := true
        outcome := .revoked
        newTier := record.trustTier
        newQuality := record.quality
        newConfidence := record.confidence }
    transition }

/-- Carries out a revocation. -/
def revoke (hashing : Hashing) (config : Config) (current : Option Record) (event : Revocation) :
    Except Error Revoked := do
  event.check
  match current with
  | none => return unrevoked none event .notFound
  | some record =>
    record.checkTime event.time
    let fingerprint := Fingerprint.of hashing record.salt event.entity event.rater
    match record.recency.revoke fingerprint event.sequence with
    | (_, .notFound) => return unrevoked current event .notFound
    | (_, .alreadyRevoked) => return unrevoked current event .alreadyRevoked
    | (recency, .revoked score _) =>
      settleRevocation { record with recency } hashing config event score

/-- Takes in a response, which leaves all scores alone. -/
def respond (hashing : Hashing) (current : Option Record) (event : Response) :
    Except Error Responded := do
  event.check
  match current with
  | none => throw (.unknownEntity event.entity)
  | some record =>
    let responseCount ← increment record.responseCount .responses
    let heads := record.heads.append hashing .response (event.leaf.hash hashing)
    return {
      record := { record with responseCount, heads }
      result := ⟨event.entity, responseCount, heads.response⟩ }

end Record

end Reputation
