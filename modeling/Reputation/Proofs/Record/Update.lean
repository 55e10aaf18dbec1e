/-
**What an accepted event does to a record.**

A feedback, a revocation or a response goes through checks and counters that can refuse it. What it
does when it is accepted is a function of the record and the event, without any failure left in it.

* `rescore_cases`: the scores are worked out again and the tier advances by them.
* `book_eq_ok`, `ingest_eq_ok`: a feedback is accepted if it is in range, no earlier than the last
  one, and the counters have room for it; it is then taken in by `takeIn`.
* `minScore_booked`, `maxScore_booked`: a feedback widens the span of the scores.
* `record_takeIn`, `record_settled`: the scores are worked out after the feedback was noted, and
  after the revocation was corrected for.
* `revoke_cases`: a revocation that does not fail finds nothing to revoke and changes nothing, or it
  marks the slot of a remembered feedback and is then settled by `settled`.
* `respond_eq_ok`: a response is accepted on any record with room for it; it is then kept by
  `answered`.
-/

import Reputation.Proofs.Fallible
import Reputation.Proofs.Recency.Step
import Reputation.Proofs.Tier.Machine
import Reputation.Record.Update

namespace Reputation

namespace Record

/-! ### Counters and time -/

/-- Whether a counter can still go up. -/
def HasRoom (count : UInt32) : Prop := count.toNat ≠ 2 ^ 32 - 1

instance (count : UInt32) : Decidable (HasRoom count) :=
  inferInstanceAs (Decidable (_ ≠ _))

theorem increment_eq_ok {count result : UInt32} {counter : Counter} :
    increment count counter = .ok result ↔ HasRoom count ∧ count + 1 = result := by
  unfold increment HasRoom
  split <;> simp_all

theorem checkTime_eq_ok {record : Record} {time : UInt64} {result : Unit} :
    record.checkTime time = .ok result ↔ record.lastSeen ≤ time := by
  unfold checkTime
  split <;> simp_all [UInt64.not_lt]

/-! ### Scores and tier -/

/-- Scoring works the scores out again and takes the tier on by what they are fit for. -/
theorem rescore_cases (record : Record) (epoch : UInt64) (config : Config) :
    ∃ tier, TierMachine.Advance record.tier
        ((record.recompute config).metrics.eligible config.tiers) epoch config.tiers tier
        (record.rescore epoch config).2 ∧
      (record.rescore epoch config).1 = { record.recompute config with tier } := by
  rcases evaluated : (record.recompute config).tier.evaluate (record.recompute config).metrics epoch
    config.tiers with ⟨tier, transition⟩
  have scored : record.rescore epoch config =
      ({ record.recompute config with tier }, transition) := by
    rw [rescore, evaluated]
  rw [scored]
  exact ⟨tier, TierMachine.evaluate_cases evaluated, rfl⟩

/-! ### Feedback -/

/-- Whether a record is without any feedback. -/
def isFresh (record : Record) : Bool := record.feedbackCount = 0

/-- Whether a feedback is the first of its epoch. -/
def startsEpoch (record : Record) (epoch : UInt64) : Bool :=
  record.isFresh || epoch != record.currentEpoch

/-- A record with the score of a feedback counted. -/
def scoreCounted (record : Record) (score : UInt8) : Record :=
  { record with
    feedbackCount := record.feedbackCount + 1
    firstScore := if record.isFresh then score else record.firstScore
    minScore := if record.isFresh || score < record.minScore then score else record.minScore
    maxScore := if record.isFresh || record.maxScore < score then score else record.maxScore
    lastScore := score }

theorem countScore_eq_ok {record result : Record} {score : UInt8} :
    record.countScore score = .ok result ↔
      HasRoom record.feedbackCount ∧ record.scoreCounted score = result := by
  rw [countScore, bind_eq_ok, scoreCounted, isFresh]
  split
  · rename_i fresh
    simp only [fresh, increment_eq_ok, pure_eq_ok, and_assoc, exists_and_left, exists_eq_left',
      decide_true, Bool.true_or, if_true]
  · rename_i used
    simp only [used, increment_eq_ok, pure_eq_ok, and_assoc, exists_and_left, exists_eq_left',
      decide_false, Bool.false_or, Bool.false_eq_true, if_false, decide_eq_true_eq]

/-- A record with the epoch of a feedback counted, if it starts. -/
def epochCounted (record : Record) (starts : Bool) (epoch : UInt64) : Record :=
  { record with
    epochCount := if starts then record.epochCount + 1 else record.epochCount
    currentEpoch := if starts then epoch else record.currentEpoch }

theorem countEpoch_eq_ok {record result : Record} {first : Bool} {epoch : UInt64} :
    record.countEpoch first epoch = .ok result ↔
      ((first || epoch != record.currentEpoch) = true → HasRoom record.epochCount) ∧
        record.epochCounted (first || epoch != record.currentEpoch) epoch = result := by
  rw [countEpoch, epochCounted]
  split
  · rename_i starts
    simp only [starts, bind_eq_ok, increment_eq_ok, pure_eq_ok, and_assoc, exists_and_left,
      exists_eq_left', forall_const]
  · rename_i continues
    simp only [continues, pure_eq_ok, Bool.false_eq_true, false_implies, true_and]

/-- A record with a feedback booked. -/
def booked (record : Record) (score : UInt8) (time epoch : UInt64) : Record :=
  { (record.scoreCounted score).epochCounted (record.startsEpoch epoch) epoch with
    lastSeen := time }

/-- The lowest score is the lower of the two, unless there was none before. -/
theorem minScore_booked (record : Record) (score : UInt8) (time epoch : UInt64) :
    (record.booked score time epoch).minScore =
      if record.isFresh then score else min record.minScore score := by
  show (if (record.isFresh || score < record.minScore) = true then score else record.minScore) =
    if record.isFresh then score
      else if record.minScore ≤ score then record.minScore else score
  cases record.isFresh with
  | true => rfl
  | false => simp [← UInt8.not_lt]

/-- The highest score is the higher of the two, unless there was none before. -/
theorem maxScore_booked (record : Record) (score : UInt8) (time epoch : UInt64) :
    (record.booked score time epoch).maxScore =
      if record.isFresh then score else max record.maxScore score := by
  show (if (record.isFresh || record.maxScore < score) = true then score else record.maxScore) =
    if record.isFresh then score
      else if record.maxScore ≤ score then score else record.maxScore
  cases record.isFresh with
  | true => rfl
  | false => grind

/-- Whether the counters have room for a feedback in the given epoch. -/
structure RoomFor (record : Record) (epoch : UInt64) : Prop where
  feedback : HasRoom record.feedbackCount
  epochs : record.startsEpoch epoch = true → HasRoom record.epochCount

theorem book_eq_ok {record result : Record} {score : UInt8} {time epoch : UInt64} :
    record.book score time epoch = .ok result ↔
      record.RoomFor epoch ∧ record.booked score time epoch = result := by
  simp only [book, bind_eq_ok, pure_eq_ok, countScore_eq_ok, countEpoch_eq_ok]
  constructor
  · rintro ⟨_, ⟨feedback, rfl⟩, _, ⟨epochs, rfl⟩, rfl⟩
    exact ⟨⟨feedback, epochs⟩, rfl⟩
  · rintro ⟨⟨feedback, epochs⟩, rfl⟩
    exact ⟨_, ⟨feedback, rfl⟩, _, ⟨epochs, rfl⟩, rfl⟩

theorem opened_eq_ok {hashing : Hashing} {current : Option Record} {event : Feedback}
    {record : Record} :
    opened hashing current event = .ok record ↔
      (current = some record ∧ record.lastSeen ≤ event.time) ∨
      (current = none ∧ empty event.entity
        (entitySalt hashing event.entity event.rater event.time) event.time = record) := by
  cases current with
  | none => simp [opened, pure_eq_ok]
  | some held =>
    simp only [opened, check_bind_eq_ok, checkTime_eq_ok, pure_eq_ok, Option.some.injEq,
      reduceCtorEq, false_and, or_false]
    exact ⟨fun ⟨timely, same⟩ => ⟨same, same ▸ timely⟩, fun ⟨same, timely⟩ => ⟨same ▸ timely, same⟩⟩

/-- What remembering a feedback comes to, under the fingerprint by which the record knows its
rater. -/
def recalled (record : Record) (hashing : Hashing) (config : Config) (event : Feedback) :
    Record × Placement × Bool :=
  record.remember (.of hashing record.salt event.entity event.rater) event config

/-- A record with a feedback remembered and booked, before its scores are worked out. -/
def noted (record : Record) (hashing : Hashing) (config : Config) (event : Feedback) : Record :=
  (record.recalled hashing config event).1.booked event.score event.time
    (config.tiers.epochOf event.time)

/-- A feedback taken into a record. -/
def takeIn (record : Record) (hashing : Hashing) (config : Config) (event : Feedback) : Ingested :=
  let (_, placement, isUnique) := record.recalled hashing config event
  let scored := (record.noted hashing config event).rescore (config.tiers.epochOf event.time) config
  let after := { scored.1 with
    heads := record.heads.append hashing .feedback (event.leaf.hash hashing) }
  { record := after
    result :=
      { entity := event.entity
        tier := after.trustTier
        quality := after.quality
        confidence := after.confidence
        risk := after.risk
        diversity := after.diversity
        isUnique
        placement
        transition := scored.2 } }

theorem record_takeIn (record : Record) (hashing : Hashing) (config : Config) (event : Feedback) :
    (record.takeIn hashing config event).record =
      { ((record.noted hashing config event).rescore
            (config.tiers.epochOf event.time) config).1 with
        heads := record.heads.append hashing .feedback (event.leaf.hash hashing) } := rfl

theorem entity_takeIn (record : Record) (hashing : Hashing) (config : Config) (event : Feedback) :
    (record.takeIn hashing config event).record.entity = record.entity := rfl

/-- What is remembered of recent raters changes as by a write. -/
theorem noted_recency (record : Record) (hashing : Hashing) (config : Config) (event : Feedback) :
    ∃ outcome, Recency.WriteCase record.recency config.ring
      ⟨.of hashing record.salt event.entity event.rater, event.score, false, event.sequence,
        event.time⟩ (record.noted hashing config event).recency outcome :=
  ⟨_, Recency.write_cases _ _ _ _ _ _⟩

theorem minScore_noted (record : Record) (hashing : Hashing) (config : Config) (event : Feedback) :
    (record.noted hashing config event).minScore =
      if record.isFresh then event.score else min record.minScore event.score :=
  minScore_booked _ _ _ _

theorem maxScore_noted (record : Record) (hashing : Hashing) (config : Config) (event : Feedback) :
    (record.noted hashing config event).maxScore =
      if record.isFresh then event.score else max record.maxScore event.score :=
  maxScore_booked _ _ _ _

/-- The statistics take in the score. -/
theorem noted_statistics (record : Record) (hashing : Hashing) (config : Config)
    (event : Feedback) :
    ∃ gap repetition, (record.noted hashing config event).statistics =
      record.statistics.update ⟨event.score, gap, repetition⟩ config.statistics :=
  ⟨_, _, rfl⟩

theorem ingest_eq_ok {hashing : Hashing} {config : Config} {current : Option Record}
    {event : Feedback} {ingested : Ingested} :
    ingest hashing config current event = .ok ingested ↔
      ∃ record, event.check = .ok () ∧ opened hashing current event = .ok record ∧
        record.RoomFor (config.tiers.epochOf event.time) ∧
        record.takeIn hashing config event = ingested := by
  rw [ingest, check_bind_eq_ok]
  simp only [bind_eq_ok, pure_eq_ok, book_eq_ok]
  constructor
  · rintro ⟨checked, record, entered, _, ⟨room, rfl⟩, rfl⟩
    exact ⟨record, checked, entered, ⟨room.feedback, room.epochs⟩, rfl⟩
  · rintro ⟨record, checked, entered, room, rfl⟩
    exact ⟨checked, record, entered, _, ⟨⟨room.feedback, room.epochs⟩, rfl⟩, rfl⟩

/-! ### Revocation -/

/-- A record with a revocation counted and the statistics corrected, before its scores are worked
out. -/
def corrected (record : Record) (config : Config) (score : UInt8) : Record :=
  { record with
    statistics := record.statistics.correct score record.recency.liveMean config.statistics
    revokedCount := record.revokedCount + 1 }

/-- A record whose slot was marked, with the revocation of a feedback of the given score settled. -/
def settled (record : Record) (hashing : Hashing) (config : Config) (event : Revocation)
    (score : UInt8) : Record × Transition :=
  let scored := (record.corrected config score).rescore (config.tiers.epochOf event.time) config
  ({ scored.1 with heads := record.heads.append hashing .revocation (event.leaf.hash hashing) },
    scored.2)

theorem record_settled (record : Record) (hashing : Hashing) (config : Config) (event : Revocation)
    (score : UInt8) :
    (record.settled hashing config event score).1 =
      { ((record.corrected config score).rescore (config.tiers.epochOf event.time) config).1 with
        heads := record.heads.append hashing .revocation (event.leaf.hash hashing) } := rfl

theorem entity_settled (record : Record) (hashing : Hashing) (config : Config) (event : Revocation)
    (score : UInt8) : (record.settled hashing config event score).1.entity = record.entity := rfl

/-- The outcome of a revocation that took effect. -/
def struckBy (after : Record × Transition) (event : Revocation) (score : UInt8) : Revoked where
  record := some after.1
  result :=
    { entity := event.entity
      originalScore := some score
      hadImpact := true
      outcome := .revoked
      newTier := after.1.trustTier
      newQuality := after.1.quality
      newConfidence := after.1.confidence }
  transition := after.2

theorem settleRevocation_eq_ok {record : Record} {hashing : Hashing} {config : Config}
    {event : Revocation} {score : UInt8} {revoked : Revoked} :
    record.settleRevocation hashing config event score = .ok revoked ↔
      HasRoom record.revokedCount ∧
        struckBy (record.settled hashing config event score) event score = revoked := by
  simp only [settleRevocation, bind_eq_ok, increment_eq_ok, pure_eq_ok]
  constructor
  · rintro ⟨_, ⟨room, rfl⟩, rfl⟩
    exact ⟨room, rfl⟩
  · rintro ⟨room, rfl⟩
    exact ⟨_, ⟨room, rfl⟩, rfl⟩

/-- What looking for the feedback that a revocation names comes to. -/
def lookUp (record : Record) (hashing : Hashing) (event : Revocation) : Recency × RevokeLookup :=
  record.recency.revoke (Fingerprint.of hashing record.salt event.entity event.rater)
    event.sequence

/-- What is remembered of recent raters changes as by a revocation. -/
theorem lookUp_case {record : Record} {hashing : Hashing} {event : Revocation} {recency : Recency}
    {lookup : RevokeLookup} (found : record.lookUp hashing event = (recency, lookup)) :
    Recency.RevokeCase record.recency (.of hashing record.salt event.entity event.rater)
      event.sequence recency lookup := by
  have case := Recency.revoke_cases record.recency
    (.of hashing record.salt event.entity event.rater) event.sequence
  rw [← lookUp, found] at case
  exact case

/-- What a revocation that does not fail can do. -/
inductive RevokeCase (hashing : Hashing) (config : Config) (event : Revocation) :
    Option Record → Revoked → Prop
  /-- The entity has no record. -/
  | unknown : RevokeCase hashing config event none (unrevoked none event .notFound)
  /-- The feedback is not remembered. -/
  | missed {record : Record} (timely : record.lastSeen ≤ event.time)
      (missing : (record.lookUp hashing event).2 = .notFound) :
      RevokeCase hashing config event (some record) (unrevoked (some record) event .notFound)
  /-- The feedback was revoked before. -/
  | repeated {record : Record} (timely : record.lastSeen ≤ event.time)
      (marked : (record.lookUp hashing event).2 = .alreadyRevoked) :
      RevokeCase hashing config event (some record)
        (unrevoked (some record) event .alreadyRevoked)
  /-- The feedback is revoked. -/
  | struck {record : Record} {recency : Recency} {score : UInt8} {location : Location}
      (timely : record.lastSeen ≤ event.time)
      (found : record.lookUp hashing event = (recency, .revoked score location))
      (room : HasRoom record.revokedCount) :
      RevokeCase hashing config event (some record)
        (struckBy ({ record with recency }.settled hashing config event score) event score)

theorem revoke_cases {hashing : Hashing} {config : Config} {current : Option Record}
    {event : Revocation} {revoked : Revoked}
    (carried : revoke hashing config current event = .ok revoked) :
    event.check = .ok () ∧ RevokeCase hashing config event current revoked := by
  unfold revoke at carried
  rw [check_bind_eq_ok] at carried
  obtain ⟨checked, carried⟩ := carried
  refine ⟨checked, ?_⟩
  cases current with
  | none =>
    obtain rfl := pure_eq_ok.mp carried
    exact .unknown
  | some record =>
    simp only [check_bind_eq_ok, checkTime_eq_ok] at carried
    obtain ⟨timely, carried⟩ := carried
    split at carried
    · rename_i missing
      obtain rfl := pure_eq_ok.mp carried
      exact .missed timely (congrArg Prod.snd missing)
    · rename_i marked
      obtain rfl := pure_eq_ok.mp carried
      exact .repeated timely (congrArg Prod.snd marked)
    · rename_i found
      obtain ⟨room, rfl⟩ := settleRevocation_eq_ok.mp carried
      exact .struck timely found room

/-! ### Response -/

/-- A response kept on a record. -/
def answered (record : Record) (hashing : Hashing) (event : Response) : Responded :=
  let heads := record.heads.append hashing .response (event.leaf.hash hashing)
  { record := { record with responseCount := record.responseCount + 1, heads }
    result := ⟨event.entity, record.responseCount + 1, heads.response⟩ }

theorem entity_answered (record : Record) (hashing : Hashing) (event : Response) :
    (record.answered hashing event).record.entity = record.entity := rfl

theorem respond_eq_ok {hashing : Hashing} {current : Option Record} {event : Response}
    {responded : Responded} :
    respond hashing current event = .ok responded ↔
      ∃ record, event.check = .ok () ∧ current = some record ∧ HasRoom record.responseCount ∧
        record.answered hashing event = responded := by
  unfold respond
  rw [check_bind_eq_ok]
  cases current with
  | none => simp [throw, throwThe, MonadExceptOf.throw]
  | some record =>
    simp only [bind_eq_ok, increment_eq_ok, pure_eq_ok]
    constructor
    · rintro ⟨checked, _, ⟨room, rfl⟩, rfl⟩
      exact ⟨record, checked, rfl, room, rfl⟩
    · rintro ⟨_, checked, same, room, rfl⟩
      cases same
      exact ⟨checked, _, ⟨room, rfl⟩, rfl⟩

end Record

end Reputation
