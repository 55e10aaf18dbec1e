/-
**A higher score changes nothing but scores.**

Take two records of an entity that differ in their scores alone, one of them never having the lower
score. The same feedback on both, with a score that is not lower on the second, is accepted or
refused alike, and so are the same revocation and the same response; and what was in order stays in
order. Confidence and diversity are the same, being made of counts, epochs and loyalty.

* `Record.Below`: the order of two such records.
* `Below.remember`, `Below.book`, `Below.rescore`: the parts of a feedback keep it.
* `Below.ingest`, `Below.revoke`, `Below.respond`: both records answer alike and stay in order.
-/

import Reputation.Proofs.Recency.Dominance
import Reputation.Proofs.Record.Update

namespace Reputation

/-- The answers are the same but for what is made of scores, quality not being lower in the
second. -/
structure UpdateResult.Below (first second : UpdateResult) : Prop where
  placement : first.placement = second.placement
  isUnique : first.isUnique = second.isUnique
  confidence : first.confidence = second.confidence
  diversity : first.diversity = second.diversity
  quality : first.quality ≤ second.quality

/-- The same order of the answers to a revocation. -/
structure RevokeResult.Below (first second : RevokeResult) : Prop where
  outcome : first.outcome = second.outcome
  hadImpact : first.hadImpact = second.hadImpact
  confidence : first.newConfidence = second.newConfidence
  quality : first.newQuality ≤ second.newQuality

namespace Record

/-- The records are the same but for what is made of scores, which is not lower in the second. -/
structure Below (first second : Record) : Prop where
  salt : first.salt = second.salt
  cardinality : first.cardinality = second.cardinality
  recency : first.recency.Below second.recency
  statistics : first.statistics.Below second.statistics
  heads : first.heads = second.heads
  quality : first.quality ≤ second.quality
  confidence : first.confidence = second.confidence
  diversity : first.diversity = second.diversity
  feedbackCount : first.feedbackCount = second.feedbackCount
  revokedCount : first.revokedCount = second.revokedCount
  responseCount : first.responseCount = second.responseCount
  minScore : first.minScore ≤ second.minScore
  maxScore : first.maxScore ≤ second.maxScore
  epochCount : first.epochCount = second.epochCount
  currentEpoch : first.currentEpoch = second.currentEpoch
  lastSeen : first.lastSeen = second.lastSeen

variable {first second : Record} {score raised : UInt8}

theorem below_empty (entity : EntityId) (salt firstSeen : UInt64) :
    (empty entity salt firstSeen).Below (empty entity salt firstSeen) where
  salt := rfl
  cardinality := rfl
  recency := Recency.below_refl _
  statistics := ⟨UInt32.le_refl _, UInt32.le_refl _, UInt32.le_refl _, rfl⟩
  heads := rfl
  quality := UInt32.le_refl _
  confidence := rfl
  diversity := rfl
  feedbackCount := rfl
  revokedCount := rfl
  responseCount := rfl
  minScore := UInt8.le_refl _
  maxScore := UInt8.le_refl _
  epochCount := rfl
  currentEpoch := rfl
  lastSeen := rfl

/-! ### Remembering -/

/-- **The rater is remembered at the same place, and is new to both records or to none.** -/
theorem Below.remember (below : first.Below second) (fingerprint : Fingerprint) (event : Feedback)
    (le : event.score ≤ raised) (config : Config) :
    let one := first.remember fingerprint event config
    let two := second.remember fingerprint { event with score := raised } config
    one.1.Below two.1 ∧ one.2 = two.2 := by
  obtain ⟨recency, placement, previous⟩ :=
    below.recency.write config.ring fingerprint le event.sequence event.time
  have gap : first.gapAt event.time = second.gapAt event.time := by
    rw [gapAt, gapAt, below.feedbackCount, below.lastSeen]
  have times {one two : Option Slot} (below : Option.Rel Slot.Below one two) :
      one.map (·.writtenAt) = two.map (·.writtenAt) := by
    cases below with
    | none => rfl
    | some below => exact congrArg some below.writtenAt
  unfold Record.remember
  dsimp only at recency placement previous ⊢
  generalize first.recency.write config.ring fingerprint event.score event.sequence event.time =
    written at recency placement previous ⊢
  generalize second.recency.write config.ring fingerprint raised event.sequence event.time =
    writtenToo at recency placement previous ⊢
  rw [placement, times previous, gap, below.cardinality]
  refine ⟨{ below with recency := recency, cardinality := rfl, statistics := ?_ }, rfl⟩
  exact below.statistics.update le _ _ _

/-! ### Booking -/

theorem least_mono {least higher : UInt8} (le : score ≤ raised) (below : least ≤ higher) :
    (if score < least then score else least) ≤ if raised < higher then raised else higher := by
  simp only [UInt8.le_iff_toNat_le, UInt8.lt_iff_toNat_lt] at *
  split <;> split <;> omega

theorem greatest_mono {greatest higher : UInt8} (le : score ≤ raised) (below : greatest ≤ higher) :
    (if greatest < score then score else greatest) ≤
      if higher < raised then raised else higher := by
  simp only [UInt8.le_iff_toNat_le, UInt8.lt_iff_toNat_lt] at *
  split <;> split <;> omega

theorem Below.countScore (below : first.Below second) (le : score ≤ raised) :
    Alike Below (first.countScore score) (second.countScore raised) := by
  unfold Record.countScore
  rw [below.feedbackCount]
  refine (alike_refl _).bind ?_
  rintro count _ rfl
  split
  · exact .ok { below with minScore := le, maxScore := le, feedbackCount := rfl }
  · refine .ok { below with minScore := ?_, maxScore := ?_, feedbackCount := rfl }
    · exact least_mono le below.minScore
    · exact greatest_mono le below.maxScore

theorem Below.countEpoch (below : first.Below second) (opening : Bool) (epoch : UInt64) :
    Alike Below (first.countEpoch opening epoch) (second.countEpoch opening epoch) := by
  unfold Record.countEpoch
  rw [below.currentEpoch, below.epochCount]
  split
  · refine (alike_refl _).bind ?_
    rintro count _ rfl
    exact .ok { below with epochCount := rfl, currentEpoch := rfl }
  · exact .ok below

theorem Below.book (below : first.Below second) (le : score ≤ raised) (time epoch : UInt64) :
    Alike Below (first.book score time epoch) (second.book raised time epoch) := by
  unfold Record.book
  refine (below.countScore le).bind fun _ _ counted => ?_
  rw [below.feedbackCount]
  refine (counted.countEpoch _ epoch).bind fun _ _ counted => ?_
  exact .ok { counted with lastSeen := rfl }

/-! ### Scoring -/

/-- **Confidence and diversity come out the same, and quality in order.** -/
theorem Below.recompute (below : first.Below second) (config : Config) :
    (first.recompute config).Below (second.recompute config) := by
  have diversity : diversityOf first.raters first.feedbackCount =
      diversityOf second.raters second.feedbackCount := by
    rw [raters, raters, below.cardinality, below.feedbackCount]
  have confidence (diversity : UInt8) :
      first.confidenceInputs diversity = second.confidenceInputs diversity := by
    rw [confidenceInputs, confidenceInputs, below.feedbackCount, below.epochCount,
      below.statistics.loyalty]
  refine { below with diversity := diversity, confidence := ?_, quality := ?_ }
  · show qualityOf _ _ (confidenceOf (first.confidenceInputs _) _) _ ≤
      qualityOf _ _ (confidenceOf (second.confidenceInputs _) _) _
    rw [diversity, confidence]
    exact qualityOf_mono below.statistics.fast below.statistics.slow _ _
  · show confidenceOf (first.confidenceInputs _) _ = confidenceOf (second.confidenceInputs _) _
    rw [diversity, confidence]

theorem Below.rescore (below : first.Below second) (epoch : UInt64) (config : Config) :
    (first.rescore epoch config).1.Below (second.rescore epoch config).1 := by
  obtain ⟨_, -, one⟩ := first.rescore_cases epoch config
  obtain ⟨_, -, two⟩ := second.rescore_cases epoch config
  rw [one, two]
  exact { below.recompute config with }

/-! ### Feedback -/

variable {hashing : Hashing} {config : Config} {current other : Option Record}

theorem Below.checkTime (below : first.Below second) (time : UInt64) :
    first.checkTime time = second.checkTime time := by
  rw [Record.checkTime, Record.checkTime, below.lastSeen]

theorem Below.opened (below : Option.Rel Below current other) (hashing : Hashing)
    (event : Feedback) (raised : UInt8) :
    Alike Below (opened hashing current event)
      (opened hashing other { event with score := raised }) := by
  cases below with
  | none => exact .ok (below_empty _ _ _)
  | @some first second below =>
    show Alike _ (first.checkTime event.time >>= _) (second.checkTime event.time >>= _)
    rw [below.checkTime]
    exact (alike_refl _).bind fun _ _ _ => .ok below

/-- **A feedback with a higher score is accepted alike.** -/
theorem Below.ingest (below : Option.Rel Below current other) (hashing : Hashing)
    (config : Config) {event : Feedback} (le : event.score ≤ raised)
    (checks : { event with score := raised }.check = event.check) :
    Alike (fun one two => one.record.Below two.record ∧ one.result.Below two.result)
      (ingest hashing config current event)
      (ingest hashing config other { event with score := raised }) := by
  unfold Record.ingest
  rw [checks]
  refine (alike_refl _).bind fun _ _ _ => ?_
  refine (Below.opened below hashing event raised).bind fun first second below => ?_
  dsimp only
  rw [below.salt]
  obtain ⟨remembered, told⟩ := below.remember
    (.of hashing second.salt event.entity event.rater) event le config
  generalize first.remember (.of hashing second.salt event.entity event.rater) event config =
    one at remembered told ⊢
  generalize second.remember (.of hashing second.salt event.entity event.rater)
    { event with score := raised } config = two at remembered told ⊢
  obtain ⟨one, answer⟩ := one
  obtain ⟨two, answerToo⟩ := two
  obtain rfl : answer = answerToo := told
  refine (remembered.book le event.time (config.tiers.epochOf event.time)).bind
    fun one two booked => ?_
  have scored := booked.rescore (config.tiers.epochOf event.time) config
  refine .ok ⟨{ scored with heads := ?_ }, ⟨rfl, rfl, scored.confidence, scored.diversity,
    scored.quality⟩⟩
  exact congrArg (fun heads : Heads => heads.append hashing .feedback _) scored.heads

/-! ### Revocation -/

theorem Below.settleRevocation (below : first.Below second) (hashing : Hashing) (config : Config)
    (event : Revocation) (score raised : UInt8) :
    Alike (fun one two => Option.Rel Below one.record two.record ∧ one.result.Below two.result)
      (first.settleRevocation hashing config event score)
      (second.settleRevocation hashing config event raised) := by
  unfold Record.settleRevocation
  rw [below.revokedCount]
  refine (alike_refl _).bind ?_
  rintro count _ rfl
  have corrected : Below
      { first with
        statistics := first.statistics.correct score first.recency.liveMean config.statistics
        revokedCount := count }
      { second with
        statistics := second.statistics.correct raised second.recency.liveMean config.statistics
        revokedCount := count } :=
    { below with
      statistics := below.statistics.correct _ _ below.recency.liveMean _
      revokedCount := rfl }
  have scored := corrected.rescore (config.tiers.epochOf event.time) config
  refine .ok ⟨.some { scored with heads := ?_ }, rfl, rfl, scored.confidence, scored.quality⟩
  exact congrArg (fun heads : Heads => heads.append hashing .revocation _) scored.heads

/-- **A revocation is carried out alike.** -/
theorem Below.revoke (below : Option.Rel Below current other) (hashing : Hashing)
    (config : Config) (event : Revocation) :
    Alike (fun one two => Option.Rel Below one.record two.record ∧ one.result.Below two.result)
      (revoke hashing config current event) (revoke hashing config other event) := by
  unfold Record.revoke
  refine (alike_refl _).bind fun _ _ _ => ?_
  cases below with
  | none => exact .ok ⟨.none, rfl, rfl, rfl, UInt32.le_refl _⟩
  | @some first second below =>
    dsimp only
    rw [below.checkTime, below.salt]
    refine (alike_refl _).bind fun _ _ _ => ?_
    obtain ⟨recency, found⟩ := below.recency.revoke
      (.of hashing second.salt event.entity event.rater) event.sequence
    generalize first.recency.revoke (.of hashing second.salt event.entity event.rater)
      event.sequence = one at recency found ⊢
    generalize second.recency.revoke (.of hashing second.salt event.entity event.rater)
      event.sequence = two at recency found ⊢
    obtain ⟨memory, lookup⟩ := one
    obtain ⟨memoryToo, lookupToo⟩ := two
    dsimp only at recency found ⊢
    cases found with
    | notFound | alreadyRevoked =>
      exact .ok ⟨.none, rfl, rfl, below.confidence, below.quality⟩
    | revoked le location =>
      have marked : Below { first with salt := second.salt, recency := memory }
          { second with recency := memoryToo } := { below with salt := rfl, recency := recency }
      exact marked.settleRevocation hashing config event _ _

/-! ### Response -/

/-- **A response is kept alike.** -/
theorem Below.respond (below : Option.Rel Below current other) (hashing : Hashing)
    (event : Response) :
    Alike (fun one two => one.record.Below two.record ∧ one.result = two.result)
      (respond hashing current event) (respond hashing other event) := by
  unfold Record.respond
  refine (alike_refl _).bind fun _ _ _ => ?_
  cases below with
  | none => exact .error _
  | @some first second below =>
    dsimp only
    rw [below.responseCount, below.heads]
    refine (alike_refl _).bind ?_
    rintro count _ rfl
    exact .ok ⟨{ below with responseCount := rfl, heads := rfl }, rfl⟩

end Record

end Reputation
