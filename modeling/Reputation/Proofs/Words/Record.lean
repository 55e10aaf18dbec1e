/-
**No event has a fault, whatever the record and the configuration hold.**

A feedback, a revocation or a response is carried out here word by word, with every sum, difference,
product, shift, quotient, narrowing and place of an array checked. It ends without a fault, refused
or carried out, and it ends as the event on the record does.

Of the record nothing is asked but its shape, which reading one from bytes secures: registers of four
bits, and cursors that are inside their lists. Its averages may be off their scales and its times may
be anything. A clock that goes back and a counter that is full are refused before they are reckoned
with.

* `FaultFree`: a computation that has no fault, and what comes of it.
* `FaultFree.bind`, `FaultFree.done`: computations without a fault go on without one.
* `Record.ingestChecked`, `revokeChecked`, `respondChecked`: the three events.
* **`Record.events_faultless`**: none of them has a fault.
-/

import Reputation.Proofs.Record.Update
import Reputation.Proofs.Words.Raters
import Reputation.Proofs.Words.Score

namespace Reputation

open Checked

/-! ### Refusals and faults -/

/-- A computation that can be refused, and that stops at its first fault. -/
abbrev Attempt := ExceptT Error Checked

section FaultFree

variable {Item Result : Type}

/-- An attempt has no fault, and gives or refuses what is said. -/
def FaultFree (attempt : Attempt Item) (outcome : Except Error Item) : Prop :=
  attempt.run = .ok outcome

theorem faultFree_pure (item : Item) : FaultFree (pure item) (.ok item) := rfl

theorem faultFree_throw (error : Error) : FaultFree (throw error : Attempt Item) (.error error) :=
  rfl

theorem faultFree_lift (outcome : Except Error Item) :
    FaultFree (liftM outcome : Attempt Item) outcome := rfl

/-- **An attempt without a fault goes on without one**, if it was not refused. -/
theorem FaultFree.bind {attempt : Attempt Item} {outcome : Except Error Item}
    {next : Item → Attempt Result} {rest : Item → Except Error Result}
    (first : FaultFree attempt outcome)
    (onward : ∀ item, outcome = .ok item → FaultFree (next item) (rest item)) :
    FaultFree (attempt >>= next) (outcome >>= rest) := by
  cases outcome with
  | error error =>
    show (attempt >>= next).run = _
    rw [ExceptT.run_bind, first]
    rfl
  | ok item =>
    show (attempt >>= next).run = _
    rw [ExceptT.run_bind, first]
    exact onward item rfl

/-- **A computation on words goes on without a fault** if it has none. -/
theorem FaultFree.done {computation : Checked Item} {item : Item} {next : Item → Attempt Result}
    {outcome : Except Error Result} (first : computation = .ok item)
    (onward : FaultFree (next item) outcome) :
    FaultFree ((liftM computation : Attempt Item) >>= next) outcome := by
  rw [first]
  exact onward

end FaultFree

/-! ### What is derived from a hash -/

/-- The number held by the first eight bytes of a digest. -/
def Digest.leadingWordChecked (digest : Digest) : Checked UInt64 := do
  let bytes ← front digest 8
  let word ← narrow 64 (ofLittleEndian bytes)
  return UInt64.ofNat word

theorem Digest.leadingWordChecked_eq (digest : Digest) :
    digest.leadingWordChecked = .ok digest.leadingWord := by
  have length : (digest.toList.take 8).length = 8 :=
    List.length_take_of_le (by rw [Vector.length_toList]; decide)
  have word := ofLittleEndian_lt (digest.toList.take 8)
  rw [length] at word
  rw [leadingWordChecked, front_eq (by decide), ok_bind, narrow_eq word]
  rfl

/-- The fingerprint of a rater with an entity of the given salt. -/
def Fingerprint.ofChecked (hashing : Hashing) (salt : UInt64) (entity : EntityId)
    (rater : RaterId) : Checked Fingerprint := do
  let word ← (hashing.derive fingerprintPurpose
    (littleEndian 8 salt.toNat ++ entity.bytes ++ rater.bytes.toList)).leadingWordChecked
  return .ofWord word

theorem Fingerprint.ofChecked_eq (hashing : Hashing) (salt : UInt64) (entity : EntityId)
    (rater : RaterId) :
    ofChecked hashing salt entity rater = .ok (of hashing salt entity rater) := by
  rw [ofChecked, Digest.leadingWordChecked_eq]
  rfl

/-- The salt of an entity whose first accepted feedback is by the given rater at the given time. -/
def entitySaltChecked (hashing : Hashing) (entity : EntityId) (rater : RaterId) (time : UInt64) :
    Checked UInt64 :=
  (hashing.derive saltPurpose
    (entity.bytes ++ rater.bytes.toList ++ littleEndian 8 time.toNat)).leadingWordChecked

theorem entitySaltChecked_eq (hashing : Hashing) (entity : EntityId) (rater : RaterId)
    (time : UInt64) :
    entitySaltChecked hashing entity rater time = .ok (entitySalt hashing entity rater time) :=
  Digest.leadingWordChecked_eq _

/-- The epoch of a time. -/
def TierPolicy.epochOfChecked (policy : TierPolicy) (time : UInt64) : Checked UInt64 := do
  let epoch ← div time.toNat (max policy.epochLength.toNat 1)
  return UInt64.ofNat epoch

theorem TierPolicy.epochOfChecked_eq (policy : TierPolicy) (time : UInt64) :
    policy.epochOfChecked time = .ok (policy.epochOf time) := by
  rw [epochOfChecked, div_eq (by omega)]
  rfl

namespace Record

variable {record : Record} {time : UInt64}

/-! ### Booking -/

/-- One more, unless the counter is full. -/
def incrementChecked (count : UInt32) (counter : Counter) : Attempt UInt32 :=
  if count.toNat = 2 ^ 32 - 1 then throw (.overflow counter)
  else do
    let next ← add 32 count.toNat 1
    return UInt32.ofNat next

theorem incrementChecked_eq (count : UInt32) (counter : Counter) :
    FaultFree (incrementChecked count counter) (increment count counter) := by
  unfold incrementChecked increment
  split
  · exact faultFree_throw _
  · rename_i room
    have word := count.toNat_lt
    have same : UInt32.ofNat (count.toNat + 1) = count + 1 := by
      rw [UInt32.ofNat_add, UInt32.ofNat_toNat]
      rfl
    refine .done (add_eq (by omega)) ?_
    rw [same]
    exact faultFree_pure _

/-- Counts a feedback and its score. -/
def countScoreChecked (record : Record) (score : UInt8) : Attempt Record := do
  let feedbackCount ← incrementChecked record.feedbackCount .feedback
  if record.feedbackCount = 0 then
    return { record with
      feedbackCount, firstScore := score, minScore := score, maxScore := score, lastScore := score }
  else
    return { record with
      feedbackCount
      minScore := if score < record.minScore then score else record.minScore
      maxScore := if record.maxScore < score then score else record.maxScore
      lastScore := score }

theorem countScoreChecked_eq (record : Record) (score : UInt8) :
    FaultFree (record.countScoreChecked score) (record.countScore score) := by
  refine .bind (incrementChecked_eq _ _) fun feedbackCount _ => ?_
  split
  · exact faultFree_pure _
  · exact faultFree_pure _

/-- Counts an epoch if it is another one than that of the feedback before, or if there is none. -/
def countEpochChecked (record : Record) (first : Bool) (epoch : UInt64) : Attempt Record := do
  if first || epoch != record.currentEpoch then
    let epochCount ← incrementChecked record.epochCount .epochs
    return { record with epochCount, currentEpoch := epoch }
  else
    return record

theorem countEpochChecked_eq (record : Record) (first : Bool) (epoch : UInt64) :
    FaultFree (record.countEpochChecked first epoch) (record.countEpoch first epoch) := by
  unfold countEpochChecked countEpoch
  split
  · exact .bind (incrementChecked_eq _ _) fun _ _ => faultFree_pure _
  · exact faultFree_pure _

/-- Books a feedback: its score, its epoch and its time. -/
def bookChecked (record : Record) (score : UInt8) (time epoch : UInt64) : Attempt Record := do
  let counted ← record.countScoreChecked score
  let counted ← counted.countEpochChecked (record.feedbackCount = 0) epoch
  return { counted with lastSeen := time }

theorem bookChecked_eq (record : Record) (score : UInt8) (time epoch : UInt64) :
    FaultFree (record.bookChecked score time epoch) (record.book score time epoch) :=
  .bind (countScoreChecked_eq _ _) fun _ _ =>
    .bind (countEpochChecked_eq _ _ _) fun _ _ => faultFree_pure _

/-! ### Scores and tier -/

/-- Works out diversity, confidence, quality and risk again. -/
def recomputeChecked (record : Record) (config : Config) : Checked Record := do
  let raters ← record.cardinality.estimateChecked
  let diversity ← diversityOfChecked raters record.feedbackCount
  let confidence ← confidenceOfChecked (record.confidenceInputs diversity) config.confidence
  let quality ←
    qualityOfChecked record.statistics.fast record.statistics.slow confidence config.confidence
  let risk ←
    riskOfChecked (record.riskInputs diversity) config.risk config.confidence.coldStartSamples
  return { record with diversity, confidence, quality, risk }

theorem recomputeChecked_eq (record : Record) (config : Config) :
    record.recomputeChecked config = .ok (record.recompute config) := by
  rw [recomputeChecked, Cardinality.estimateChecked_eq, ok_bind, diversityOfChecked_eq, ok_bind,
    confidenceOfChecked_eq, ok_bind, qualityOfChecked_eq, ok_bind, riskOfChecked_eq]
  rfl

/-- Works out the scores again and brings the tier up to date, for which the epochs of a candidacy
are a difference that stops at zero. -/
def rescoreChecked (record : Record) (epoch : UInt64) (config : Config) :
    Checked (Record × Transition) := do
  let scored ← record.recomputeChecked config
  let (tier, transition) := scored.tier.evaluate scored.metrics epoch config.tiers
  return ({ scored with tier }, transition)

theorem rescoreChecked_eq (record : Record) (epoch : UInt64) (config : Config) :
    record.rescoreChecked epoch config = .ok (record.rescore epoch config) := by
  rw [rescoreChecked, recomputeChecked_eq]
  rfl

/-! ### Feedback -/

/-- The record that a feedback is taken into. -/
def openedChecked (hashing : Hashing) (current : Option Record) (event : Feedback) :
    Attempt Record :=
  match current with
  | some record => do
    record.checkTime event.time
    return record
  | none => do
    let salt ← entitySaltChecked hashing event.entity event.rater event.time
    return .empty event.entity salt event.time

theorem openedChecked_eq (hashing : Hashing) (current : Option Record) (event : Feedback) :
    FaultFree (openedChecked hashing current event) (opened hashing current event) := by
  cases current with
  | some record => exact .bind (faultFree_lift _) fun _ _ => faultFree_pure _
  | none => exact .done (entitySaltChecked_eq _ _ _ _) (faultFree_pure _)

/-- The time since the last feedback, none at the first. -/
def gapAtChecked (record : Record) (time : UInt64) : Checked (Option UInt64) :=
  if record.feedbackCount = 0 then return none
  else do
    let gap ← sub time.toNat record.lastSeen.toNat
    return some (UInt64.ofNat gap)

/-- The clock did not go back, so the gap is a number. -/
theorem gapAtChecked_eq (inTime : record.lastSeen ≤ time) :
    record.gapAtChecked time = .ok (record.gapAt time) := by
  have same : UInt64.ofNat (time.toNat - record.lastSeen.toNat) = time - record.lastSeen := by
    apply UInt64.toNat.inj
    rw [UInt64.toNat_sub_of_le _ _ inTime, UInt64.toNat_ofNat']
    exact Nat.mod_eq_of_lt (Nat.lt_of_le_of_lt (Nat.sub_le _ _) time.toNat_lt)
  unfold gapAtChecked gapAt
  split
  · rfl
  · rw [sub_eq (UInt64.le_iff_toNat_le.mp inTime), ok_bind, same]
    rfl

/-- The registers after a feedback, and whether one was raised. A rater who is remembered already is
not put to them again. -/
def meetChecked (record : Record) (placement : Placement) (fingerprint : Fingerprint) :
    Checked (Cardinality × Bool) :=
  if placement.isRepeat then return (record.cardinality, false)
  else record.cardinality.observeChecked fingerprint

theorem meetChecked_eq (record : Record) (placement : Placement) (fingerprint : Fingerprint) :
    record.meetChecked placement fingerprint =
      .ok (if placement.isRepeat then record.cardinality
          else record.cardinality.observe fingerprint,
        !placement.isRepeat && record.cardinality.isRaisedBy fingerprint) := by
  unfold meetChecked
  cases placement.isRepeat with
  | true => rw [if_pos rfl, if_pos rfl, Bool.not_true, Bool.false_and]; rfl
  | false =>
    rw [if_neg Bool.false_ne_true, if_neg Bool.false_ne_true, Cardinality.observeChecked_eq,
      Bool.not_false, Bool.true_and]

/-- A feedback remembered: the slot written, the registers raised, the statistics moved. -/
def rememberChecked (record : Record) (fingerprint : Fingerprint) (event : Feedback)
    (config : Config) : Checked (Record × Placement × Bool) := do
  let gap ← record.gapAtChecked event.time
  let written ←
    record.recency.writeChecked config.ring fingerprint event.score event.sequence event.time
  let met ← record.meetChecked written.2.placement fingerprint
  let repetition := Repetition.classify (written.2.previous.map (·.writtenAt)) event.time
    config.statistics.loyaltyDelay
  let statistics ← record.statistics.updateChecked ⟨event.score, gap, repetition⟩ config.statistics
  return ({ record with recency := written.1, cardinality := met.1, statistics },
    written.2.placement, met.2)

theorem rememberChecked_eq {event : Feedback} (inTime : record.lastSeen ≤ event.time)
    (fingerprint : Fingerprint) (config : Config) :
    record.rememberChecked fingerprint event config =
      .ok (record.remember fingerprint event config) := by
  unfold rememberChecked
  rw [gapAtChecked_eq inTime, ok_bind, Recency.writeChecked_eq, ok_bind, meetChecked_eq, ok_bind]
  simp only [Statistics.updateChecked_eq]
  rfl

/-- Takes in a feedback. -/
def ingestChecked (hashing : Hashing) (config : Config) (current : Option Record)
    (event : Feedback) : Attempt Ingested := do
  event.check
  let record ← openedChecked hashing current event
  let fingerprint ← Fingerprint.ofChecked hashing record.salt event.entity event.rater
  let remembered ← record.rememberChecked fingerprint event config
  let epoch ← config.tiers.epochOfChecked event.time
  let booked ← remembered.1.bookChecked event.score event.time epoch
  let rescored ← booked.rescoreChecked epoch config
  let scored := rescored.1
  let record := { scored with
    heads := scored.heads.append hashing .feedback (event.leaf.hash hashing) }
  return {
    record
    result :=
      { entity := event.entity
        tier := record.trustTier
        quality := record.quality
        confidence := record.confidence
        risk := record.risk
        diversity := record.diversity
        isUnique := remembered.2.2
        placement := remembered.2.1
        transition := rescored.2 } }

theorem lastSeen_le_of_opened {hashing : Hashing} {current : Option Record} {event : Feedback}
    (accepted : opened hashing current event = .ok record) : record.lastSeen ≤ event.time := by
  obtain ⟨-, inTime⟩ | ⟨-, rfl⟩ := opened_eq_ok.mp accepted
  · exact inTime
  · exact UInt64.le_refl _

theorem ingestChecked_eq (hashing : Hashing) (config : Config) (current : Option Record)
    (event : Feedback) :
    FaultFree (ingestChecked hashing config current event)
      (ingest hashing config current event) := by
  refine .bind (faultFree_lift _) fun _ _ => ?_
  refine .bind (openedChecked_eq _ _ _) fun record accepted => ?_
  refine .done (Fingerprint.ofChecked_eq _ _ _ _) ?_
  refine .done (rememberChecked_eq (lastSeen_le_of_opened accepted) _ _) ?_
  refine .done (TierPolicy.epochOfChecked_eq _ _) ?_
  refine .bind (bookChecked_eq _ _ _ _) fun booked _ => ?_
  refine .done (rescoreChecked_eq _ _ _) ?_
  exact faultFree_pure _

/-! ### Revocation -/

/-- The record after its slot was marked. -/
def settleRevocationChecked (record : Record) (hashing : Hashing) (config : Config)
    (event : Revocation) (score : UInt8) : Attempt Revoked := do
  let liveMean ← record.recency.liveMeanChecked
  let statistics ← record.statistics.correctChecked score liveMean config.statistics
  let revokedCount ← incrementChecked record.revokedCount .revoked
  let epoch ← config.tiers.epochOfChecked event.time
  let rescored ← { record with statistics, revokedCount }.rescoreChecked epoch config
  let scored := rescored.1
  let record := { scored with
    heads := scored.heads.append hashing .revocation (event.leaf.hash hashing) }
  return {
    record := some record
    result :=
      { entity := event.entity
        originalScore := some score
        hadImpact := true
        outcome := .revoked
        newTier := record.trustTier
        newQuality := record.quality
        newConfidence := record.confidence }
    transition := rescored.2 }

theorem settleRevocationChecked_eq (record : Record) (hashing : Hashing) (config : Config)
    (event : Revocation) (score : UInt8) :
    FaultFree (record.settleRevocationChecked hashing config event score)
      (record.settleRevocation hashing config event score) := by
  refine .done (Recency.liveMeanChecked_eq _) ?_
  refine .done (Statistics.correctChecked_eq _ _ _ _) ?_
  refine .bind (incrementChecked_eq _ _) fun revokedCount _ => ?_
  refine .done (TierPolicy.epochOfChecked_eq _ _) ?_
  refine .done (rescoreChecked_eq _ _ _) ?_
  exact faultFree_pure _

/-- Carries out a revocation. -/
def revokeChecked (hashing : Hashing) (config : Config) (current : Option Record)
    (event : Revocation) : Attempt Revoked := do
  event.check
  match current with
  | none => return unrevoked none event .notFound
  | some record =>
    record.checkTime event.time
    let fingerprint ← Fingerprint.ofChecked hashing record.salt event.entity event.rater
    let found ← record.recency.revokeChecked fingerprint event.sequence
    match found with
    | (_, .notFound) => return unrevoked current event .notFound
    | (_, .alreadyRevoked) => return unrevoked current event .alreadyRevoked
    | (recency, .revoked score _) =>
      settleRevocationChecked { record with recency } hashing config event score

theorem revokeChecked_eq (hashing : Hashing) (config : Config) (current : Option Record)
    (event : Revocation) :
    FaultFree (revokeChecked hashing config current event)
      (revoke hashing config current event) := by
  refine .bind (faultFree_lift _) fun _ _ => ?_
  cases current with
  | none => exact faultFree_pure _
  | some record =>
    refine .bind (faultFree_lift _) fun _ _ => ?_
    refine .done (Fingerprint.ofChecked_eq _ _ _ _) ?_
    refine .done (Recency.revokeChecked_eq _ _ _) ?_
    dsimp only
    generalize record.recency.revoke (.of hashing record.salt event.entity event.rater)
      event.sequence = found
    obtain ⟨recency, lookup⟩ := found
    cases lookup with
    | revoked score location => exact settleRevocationChecked_eq _ _ _ _ _
    | alreadyRevoked => exact faultFree_pure _
    | notFound => exact faultFree_pure _

/-! ### Response -/

/-- Takes in a response. -/
def respondChecked (hashing : Hashing) (current : Option Record) (event : Response) :
    Attempt Responded := do
  event.check
  match current with
  | none => throw (.unknownEntity event.entity)
  | some record =>
    let responseCount ← incrementChecked record.responseCount .responses
    let heads := record.heads.append hashing .response (event.leaf.hash hashing)
    return {
      record := { record with responseCount, heads }
      result := ⟨event.entity, responseCount, heads.response⟩ }

theorem respondChecked_eq (hashing : Hashing) (current : Option Record) (event : Response) :
    FaultFree (respondChecked hashing current event) (respond hashing current event) := by
  refine .bind (faultFree_lift _) fun _ _ => ?_
  cases current with
  | none => exact faultFree_throw _
  | some record => exact .bind (incrementChecked_eq _ _) fun _ _ => faultFree_pure _

/-- **No event has a fault.** Take any record or none, a configuration within its bounds or not, and
any event. Carried out word by word, a feedback, a revocation or a response is refused or accepted
just as on numbers, and on the way no word is left, no bit is lost, no array is overrun and nothing
is divided by zero. -/
theorem events_faultless (hashing : Hashing) (config : Config) (current : Option Record) :
    (∀ event, (ingestChecked hashing config current event).run =
      .ok (ingest hashing config current event)) ∧
    (∀ event, (revokeChecked hashing config current event).run =
      .ok (revoke hashing config current event)) ∧
    (∀ event, (respondChecked hashing current event).run =
      .ok (respond hashing current event)) :=
  ⟨ingestChecked_eq hashing config current, revokeChecked_eq hashing config current,
    respondChecked_eq hashing current⟩

end Record

end Reputation
