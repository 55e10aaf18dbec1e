/-
**Records stay in bounds and show what their numbers come to.**

Three kinds of events change some twenty numbers of a record, each in an order of its own, and the
scores are kept beside the numbers from which they were worked out. After every run all numbers are
on their scales, and what the record shows of diversity, confidence, quality and risk is what its
registers, counters and statistics come to under the configuration by which it was scored last.

* `qualityOf_le_confidence`: quality is no higher than confidence lets it be.
* `Record.Spanned`: the lowest and the highest score span the first and the last one.
* `Record.Coherent`: the scores that are shown are those of the numbers beside them.
* `Record.Bounded`: every number is on its scale.
* **`coherent_in_bounds`**: both hold of every record after every run.
-/

import Reputation.Proofs.Engine.Standing
import Reputation.Proofs.Record.Shape

namespace Reputation

/-- **Quality is no higher than confidence lets it be.** -/
theorem qualityOf_le_confidence {fast slow : UInt32} (fastHigh : fast.toNat ≤ averageScale)
    (slowHigh : slow.toNat ≤ averageScale) (confidence : UInt8) (policy : ConfidencePolicy) :
    (qualityOf fast slow confidence policy).toNat ≤ 100 * confidence.toNat := by
  have weights (weight : Nat) (share : weight ≤ 100) :
      fast.toNat * weight + slow.toNat * (100 - weight) ≤ averageScale * 100 := by
    calc fast.toNat * weight + slow.toNat * (100 - weight)
        ≤ averageScale * weight + averageScale * (100 - weight) :=
          Nat.add_le_add (Nat.mul_le_mul_right _ fastHigh) (Nat.mul_le_mul_right _ slowHigh)
      _ = averageScale * 100 := by rw [← Nat.mul_add, Nat.add_sub_cancel' share]
  refine Nat.le_trans (Nat.mod_le _ _) (Nat.le_trans (Nat.min_le_left _ _) (divHalfUp_le ?_))
  calc _ ≤ averageScale * 100 * confidence.toNat :=
        Nat.mul_le_mul (weights _ (Nat.min_le_right _ _)) (Nat.min_le_left _ _)
    _ = 100 * 100 * (100 * confidence.toNat) := by
        rw [averageScale, ← Nat.mul_assoc]

namespace Record

variable {record : Record} {hashing : Hashing} {config : Config}

/-! ### The first and the last score -/

/-- The lowest and the highest score span the first and the last one. -/
structure Spanned (record : Record) : Prop where
  first : record.minScore ≤ record.firstScore ∧ record.firstScore ≤ record.maxScore
  last : record.minScore ≤ record.lastScore ∧ record.lastScore ≤ record.maxScore

theorem spanned_empty (entity : EntityId) (salt firstSeen : UInt64) :
    (empty entity salt firstSeen).Spanned := by
  refine ⟨⟨?_, ?_⟩, ?_, ?_⟩ <;> exact UInt8.le_refl 0

theorem minScore_booked_le_minScore (used : record.isFresh = false) (score : UInt8)
    (time epoch : UInt64) : (record.booked score time epoch).minScore ≤ record.minScore := by
  rw [minScore_booked, used]
  exact Std.min_le_left

theorem maxScore_le_maxScore_booked (used : record.isFresh = false) (score : UInt8)
    (time epoch : UInt64) : record.maxScore ≤ (record.booked score time epoch).maxScore := by
  rw [maxScore_booked, used]
  exact Std.left_le_max

/-- **Booking a score keeps the span.** The first score is the one at hand, or it was within the
span before. -/
theorem Spanned.booked (spanned : record.Spanned) (score : UInt8) (time epoch : UInt64) :
    (record.booked score time epoch).Spanned := by
  have low := record.minScore_booked_le score time epoch
  have high := record.le_maxScore_booked score time epoch
  refine ⟨?_, low, high⟩
  show _ ≤ (if record.isFresh = true then score else record.firstScore) ∧
    (if record.isFresh = true then score else record.firstScore) ≤ _
  cases used : record.isFresh with
  | true => exact ⟨low, high⟩
  | false =>
    exact ⟨UInt8.le_trans (minScore_booked_le_minScore used _ _ _) spanned.first.1,
      UInt8.le_trans spanned.first.2 (maxScore_le_maxScore_booked used _ _ _)⟩

/-- Neither what is remembered nor the scores that are worked out are part of the span. -/
theorem Spanned.takeIn (spanned : record.Spanned) (hashing : Hashing) (config : Config)
    (event : Feedback) : (record.takeIn hashing config event).record.Spanned := by
  have remembered : (record.recalled hashing config event).1.Spanned :=
    ⟨spanned.first, spanned.last⟩
  have noted : (record.noted hashing config event).Spanned := remembered.booked _ _ _
  obtain ⟨tier, -, scored⟩ := (record.noted hashing config event).rescore_cases
    (config.tiers.epochOf event.time) config
  rw [record_takeIn, scored]
  exact ⟨noted.first, noted.last⟩

/-- **Every event keeps the span.** -/
theorem spanned_keptByEvents (hashing : Hashing) (config : Config) :
    Engine.KeptByEvents hashing config Spanned where
  opened := spanned_empty
  takenIn _ event _ spanned := spanned.takeIn hashing config event
  settled record event recency score location _ spanned := by
    obtain ⟨tier, -, scored⟩ := ({ record with recency }.corrected config score).rescore_cases
      (config.tiers.epochOf event.time) config
    rw [record_settled, scored]
    exact ⟨spanned.first, spanned.last⟩
  answered _ _ spanned := ⟨spanned.first, spanned.last⟩

/-! ### Scores that are kept beside the numbers -/

/-- The scores that a record shows are those of its registers, counters and statistics. -/
structure Coherent (config : Config) (record : Record) : Prop where
  diversity : record.diversity = diversityOf record.cardinality.estimate record.feedbackCount
  confidence : record.confidence =
    confidenceOf (record.confidenceInputs record.diversity) config.confidence
  quality : record.quality =
    qualityOf record.statistics.fast record.statistics.slow record.confidence config.confidence
  risk : record.risk =
    riskOf (record.riskInputs record.diversity) config.risk config.confidence.coldStartSamples

theorem coherent_recompute (record : Record) (config : Config) :
    Coherent config (record.recompute config) := ⟨rfl, rfl, rfl, rfl⟩

/-- **Scoring makes the scores those of the numbers.** The tier and the heads have no part in it. -/
theorem coherent_rescore (record : Record) (epoch : UInt64) (config : Config) (heads : Heads) :
    Coherent config { (record.rescore epoch config).1 with heads } := by
  obtain ⟨tier, -, scored⟩ := record.rescore_cases epoch config
  have coherent := record.coherent_recompute config
  rw [scored]
  exact ⟨coherent.diversity, coherent.confidence, coherent.quality, coherent.risk⟩

theorem coherent_setByScoring (hashing : Hashing) : Engine.SetByScoring hashing Coherent where
  takenIn config record event _ := by
    rw [record_takeIn]
    exact coherent_rescore _ _ _ _
  settled config record event score _ := by
    rw [record_settled]
    exact coherent_rescore _ _ _ _
  answered _ _ _ coherent := ⟨coherent.diversity, coherent.confidence, coherent.quality,
    coherent.risk⟩

/-! ### Bounds -/

/-- Every number of a record is on its scale. -/
structure Bounded (record : Record) : Prop where
  /-- The fast and the slow average and the volatility. -/
  averages : record.statistics.fast.toNat ≤ 10000 ∧ record.statistics.slow.toNat ≤ 10000 ∧
    record.statistics.volatility.toNat ≤ 10000
  arrival : record.statistics.arrival.toNat ≤ 6400
  peak : record.statistics.slow ≤ record.statistics.peak ∧
    record.statistics.peak.toNat ≤ 10000
  drawdown : record.statistics.drawdown ≤ record.statistics.peak
  firstScore : record.minScore ≤ record.firstScore ∧ record.firstScore ≤ record.maxScore
  lastScore : record.minScore ≤ record.lastScore ∧ record.lastScore ≤ record.maxScore
  maxScore : record.maxScore.toNat ≤ 100
  slots : ∀ location slot, record.recency.slot? location = some slot → slot.score.toNat ≤ 100
  registers : ∀ register : Fin 256, record.cardinality.registers[register].val ≤ 15
  risk : record.risk.toNat ≤ 100
  confidence : record.confidence.toNat ≤ 100
  quality : record.quality.toNat ≤ 100 * record.confidence.toNat

/-- A record whose scores are those of its numbers is in bounds if its numbers are. -/
theorem Coherent.bounded (coherent : Coherent config record) (shaped : record.InShape)
    (storable : record.Storable) (spanned : record.Spanned) : record.Bounded := by
  have statistics := shaped.statistics
  obtain ⟨scores, -, risk, confidence⟩ := BooksFrame.inRange_iff.mp storable.books
  exact
    { averages := ⟨statistics.fast, statistics.slow, statistics.volatility⟩
      arrival := statistics.arrival
      peak := ⟨statistics.slow_le_peak, statistics.peak⟩
      drawdown := statistics.drawdown
      firstScore := spanned.first
      lastScore := spanned.last
      maxScore := scores record.maxScore (.tail _ (.head _))
      slots := fun location slot holds => (storable.recency.slots location slot holds).score
      registers := fun register => Fin.is_le _
      risk
      confidence
      quality := by
        rw [coherent.quality]
        exact qualityOf_le_confidence statistics.fast statistics.slow _ _ }

end Record

namespace Engine

/-- **Records stay in bounds and show what their numbers come to.** Take any run of an engine whose
first configuration is within bounds. Every record is in bounds, and it was scored last under some
configuration, under which its registers, counters and statistics come to the diversity, confidence,
quality and risk that it shows. -/
theorem coherent_in_bounds (hashing : Hashing) {config : Config} (within : config.check = .ok ())
    (calls : List Call) {entity : EntityId} {record : Record}
    (known : ((system hashing config).final calls).record? entity = some record) :
    record.Bounded ∧
      ∃ used, scoringConfig? entity ((system hashing config).history calls) = some used ∧
        record.Coherent used := by
  obtain ⟨used, scored, -, coherent⟩ :=
    scored_of_run (Record.coherent_setByScoring hashing) within calls entity record known
  have shaped := Record.shaped_of_run hashing config calls entity record known
  have storable : record.Storable := holds_of_run (fun config => config.check = .ok ()) within
    (fun _ => id) (fun _ within => Record.storable_keptByEvents hashing within) calls record known
  have spanned : record.Spanned := holds_of_run (fun _ => True) trivial (fun _ _ => trivial)
    (fun config _ => Record.spanned_keptByEvents hashing config) calls record known
  exact ⟨coherent.bounded shaped storable spanned, used, scored, coherent⟩

/-- After a revocation and a change of the configuration, the first entity still shows what its
numbers come to under the configuration by which the revocation was scored. -/
theorem coherent_in_bounds_rated :
    lenient.check = .ok () ∧
    ∃ record, ((system summing lenient).final rated).record? ⟨1⟩ = some record ∧
      record.revokedCount = 1 ∧ record.Bounded ∧
      scoringConfig? ⟨1⟩ ((system summing lenient).history rated) = some lenient ∧
      record.Coherent lenient ∧ ((system summing lenient).final rated).config ≠ lenient := by
  have within : lenient.check = .ok () := by decide
  have once : (((system summing lenient).final rated).record? ⟨1⟩).map (·.revokedCount) =
      some 1 := by decide +kernel
  have last : scoringConfig? ⟨1⟩ ((system summing lenient).history rated) = some lenient := by
    decide +kernel
  have changed : ((system summing lenient).final rated).config ≠ lenient := by decide +kernel
  obtain ⟨record, known, revoked⟩ := Option.map_eq_some_iff.mp once
  obtain ⟨bounded, used, scored, coherent⟩ := coherent_in_bounds summing within rated known
  obtain rfl : lenient = used := Option.some.inj (last.symm.trans scored)
  exact ⟨within, record, known, revoked, bounded, last, coherent, changed⟩

end Engine

end Reputation
