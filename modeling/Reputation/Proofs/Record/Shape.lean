/-
**The shape of a record.**

The averages stay on their scales and within their peak, the lowest score is not above the highest,
no rater has two slots, and a candidacy is for a tier above the confirmed one. Every record that
events make has this shape. Reading does not look into it: bytes whose other numbers are in range
are taken for a record whatever its shape.

* `InShape.takeIn`, `InShape.settled`, `InShape.answered`: what each event keeps.
* `Shapely`: what the shape asks of the bytes of a record.
* `inShape_iff_shapely`: a record that was read has the shape that its bytes had.
* `shape_kept_not_checked`: what runs keep, and what reading lets pass.
-/

import Reputation.Proofs.Engine.Run
import Reputation.Proofs.Numeric.Mean
import Reputation.Proofs.Record.Reach
import Reputation.Proofs.Score.Statistics

namespace Reputation

namespace Record

variable {record : Record} {hashing : Hashing} {config : Config}

/-- The shape that events give to a record. -/
@[mk_iff]
structure InShape (record : Record) : Prop where
  statistics : record.statistics.InRange
  scores : record.minScore ≤ record.maxScore
  /-- No rater has two slots, in the ring and the bypass list together. -/
  raters : record.recency.Distinct
  /-- An open candidacy is for a tier above the confirmed one. -/
  tier : record.tier.Aspires

/-! ### Events keep the shape -/

theorem inShape_empty (entity : EntityId) (salt firstSeen : UInt64) :
    (empty entity salt firstSeen).InShape :=
  ⟨Statistics.inRange_empty, Nat.le_refl 0, Recency.distinct_empty firstSeen, nofun⟩

/-- Neither the scores that are worked out nor the heads are part of the shape. -/
theorem InShape.rescored (shaped : record.InShape) (epoch : UInt64) (config : Config)
    (heads : Heads) : { (record.rescore epoch config).1 with heads }.InShape := by
  obtain ⟨tier, advance, scored⟩ := record.rescore_cases epoch config
  rw [scored]
  exact ⟨shaped.statistics, shaped.scores, shaped.raters, advance.aspires shaped.tier⟩

theorem minScore_booked_le (record : Record) (score : UInt8) (time epoch : UInt64) :
    (record.booked score time epoch).minScore ≤ score := by
  rw [minScore_booked]
  split
  · exact UInt8.le_refl score
  · exact Std.min_le_right

theorem le_maxScore_booked (record : Record) (score : UInt8) (time epoch : UInt64) :
    score ≤ (record.booked score time epoch).maxScore := by
  rw [maxScore_booked]
  split
  · exact UInt8.le_refl score
  · exact Std.right_le_max

/-- **A feedback keeps the shape.** -/
theorem InShape.takeIn (shaped : record.InShape) (hashing : Hashing) (config : Config)
    (event : Feedback) : (record.takeIn hashing config event).record.InShape := by
  obtain ⟨outcome, case⟩ := record.noted_recency hashing config event
  obtain ⟨gap, repetition, statistics⟩ := record.noted_statistics hashing config event
  have noted : (record.noted hashing config event).InShape :=
    { statistics := statistics ▸ shaped.statistics.toScaled.update _ _
      scores := UInt8.le_trans (minScore_booked_le _ _ _ _) (le_maxScore_booked _ _ _ _)
      raters := case.distinct shaped.raters
      tier := shaped.tier }
  rw [record_takeIn]
  exact noted.rescored _ _ _

/-- **A revocation keeps the shape.** -/
theorem InShape.settled (shaped : record.InShape) (hashing : Hashing) (config : Config)
    (event : Revocation) (score : UInt8) :
    (record.settled hashing config event score).1.InShape := by
  have corrected : (record.corrected config score).InShape :=
    { shaped with statistics := shaped.statistics.toScaled.correct _ _ _ }
  rw [record_settled]
  exact corrected.rescored _ _ _

/-- The slot that is marked keeps its rater. -/
theorem InShape.lookUp (shaped : record.InShape) (hashing : Hashing) (event : Revocation) :
    InShape { record with recency := (record.lookUp hashing event).1 } :=
  { shaped with raters := (Recency.revoke_cases _ _ _).distinct shaped.raters }

/-- **A response keeps the shape.** -/
theorem InShape.answered (shaped : record.InShape) (hashing : Hashing) (event : Response) :
    (record.answered hashing event).record.InShape :=
  { shaped with }

/-- The record of an entity has the shape, if there is one. -/
def Shaped (current : Option Record) : Prop := ∀ record, current = some record → record.InShape

/-- **Every event keeps the shape.** -/
theorem inShape_keptByEvents (hashing : Hashing) (config : Config) :
    Engine.KeptByEvents hashing config InShape where
  opened := inShape_empty
  takenIn _ event _ shaped := shaped.takeIn hashing config event
  settled record event recency score location found shaped := by
    have marked := shaped.lookUp hashing event
    rw [found] at marked
    exact marked.settled hashing config event score
  answered _ event shaped := shaped.answered hashing event

/-- **Every record of an engine has the shape after every run.** -/
theorem shaped_of_run (hashing : Hashing) (config : Config) (calls : List Engine.Call)
    (entity : EntityId) : Shaped (((Engine.system hashing config).final calls).record? entity) :=
  Engine.holds_of_run (fun _ => True) trivial (fun _ _ => trivial)
    (fun config _ => inShape_keptByEvents hashing config) calls

end Record

/-! ### Reading does not check the shape -/

variable {bytes : List UInt8}

/-- Bytes of a record that has the shape which events give. -/
@[mk_iff]
structure Shapely (bytes : List UInt8) : Prop where
  /-- The fast and the slow average and the volatility. -/
  averages : ∀ position ∈ [978, 982, 986], numberAt bytes position 4 ≤ 10000
  arrival : numberAt bytes 990 4 ≤ 6400
  /-- The slow average is within its peak. -/
  peak : numberAt bytes 982 4 ≤ numberAt bytes 998 4 ∧ numberAt bytes 998 4 ≤ 10000
  drawdown : numberAt bytes 1002 4 ≤ numberAt bytes 998 4
  /-- The lowest score is not above the highest. -/
  scores : numberAt bytes 1131 1 ≤ numberAt bytes 1132 1
  /-- The fingerprint of a slot stands above the lowest byte of its word. -/
  raters : ∀ location other : Location, location.isMarked bytes = true →
    other.isMarked bytes = true →
    numberAt bytes other.position 8 / 256 = numberAt bytes location.position 8 / 256 →
      other = location
  /-- The candidate is missing or above the confirmed tier. -/
  tier : numberAt bytes 1007 1 = 255 ∨ numberAt bytes 1006 1 < numberAt bytes 1007 1

theorem TierMachine.aspires_iff (machine : TierMachine) :
    machine.Aspires ↔ machine.frame.candidate.toNat = 255 ∨
      machine.frame.confirmed.toNat < machine.frame.candidate.toNat := by
  obtain ⟨confirmed, candidate, epoch⟩ := machine
  cases candidate with
  | none => exact ⟨fun _ => .inl rfl, fun _ => nofun⟩
  | some tier =>
    have known : tier.byte.toNat ≠ 255 := by
      rw [tier.toNat_byte]
      exact Nat.ne_of_lt (Nat.lt_of_le_of_lt tier.rank_le (by decide))
    show Aspires ⟨confirmed, some tier, epoch⟩ ↔
      tier.byte.toNat = 255 ∨ confirmed.byte.toNat < tier.byte.toNat
    rw [or_iff_right known, tier.toNat_byte, confirmed.toNat_byte]
    exact ⟨fun aspires => aspires tier rfl, fun above _ same => Option.some.inj same ▸ above⟩

namespace Record

variable {record : Record}

/-- Where the parts of the shape of a record that was read stand in its bytes. -/
theorem decode_parts (accepted : decode bytes = .ok record) :
    Recency.ofFrame (Frame.at bytes).recency = .ok record.recency ∧
      record.tier.frame = (Frame.at bytes).tier ∧
      record.statistics = .ofFrame (Frame.at bytes).statistics ∧
      record.minScore = (Frame.at bytes).books.minScore ∧
      record.maxScore = (Frame.at bytes).books.maxScore := by
  obtain ⟨length, accepted⟩ := decode_eq_ok.mp accepted
  rw [Frame.read_eq_at length] at accepted
  obtain ⟨-, recency, tier, readRecency, readTier, -, rfl⟩ := ofFrame_eq_ok.mp accepted
  exact ⟨readRecency, readTier, rfl, rfl, rfl⟩

/-- The slot of a place that was read is taken if it was marked, by the rater above the lowest byte
of its word. -/
theorem slot?_of_decode (accepted : decode bytes = .ok record) (location : Location) :
    (record.recency.slot? location).isSome = location.isMarked bytes ∧
      ∀ slot, record.recency.slot? location = some slot →
        slot.fingerprint.value.toNat = numberAt bytes location.position 8 / 256 := by
  obtain ⟨places, -⟩ := Recency.ofFrame_eq_ok.mp (decode_parts accepted).1
  refine ⟨(places location).marked.trans (isMarked_at location), fun slot holds => ?_⟩
  obtain ⟨storable, same⟩ := (places location).slot slot holds
  rw [holds] at same
  have word : slot.pack = ((Frame.at bytes).recency.slot location).word :=
    congrArg SlotFrame.word same
  rw [← Slot.toNat_pack_div storable, word, toNat_word_at]

theorem distinct_of_decode (accepted : decode bytes = .ok record) :
    record.recency.Distinct ↔ ∀ location other : Location, location.isMarked bytes = true →
      other.isMarked bytes = true →
      numberAt bytes other.position 8 / 256 = numberAt bytes location.position 8 / 256 →
        other = location := by
  constructor
  · intro distinct location other marked markedOther same
    obtain ⟨taken, rater⟩ := slot?_of_decode accepted location
    obtain ⟨takenOther, raterOther⟩ := slot?_of_decode accepted other
    obtain ⟨slot, holds⟩ := Option.isSome_iff_exists.mp (taken.trans marked)
    obtain ⟨slotOther, holdsOther⟩ := Option.isSome_iff_exists.mp (takenOther.trans markedOther)
    refine distinct location slot holds other slotOther holdsOther ?_
    have value : slotOther.fingerprint.value = slot.fingerprint.value := by
      rw [← UInt64.toNat_inj, rater slot holds, raterOther slotOther holdsOther, same]
    exact Fingerprint.mk.injEq _ _ |>.mpr value
  · intro separate location slot holds other slotOther holdsOther same
    obtain ⟨taken, rater⟩ := slot?_of_decode accepted location
    obtain ⟨takenOther, raterOther⟩ := slot?_of_decode accepted other
    refine separate location other (taken.symm.trans (by rw [holds]; rfl))
      (takenOther.symm.trans (by rw [holdsOther]; rfl)) ?_
    rw [← rater slot holds, ← raterOther slotOther holdsOther, same]

theorem statistics_at_inRange :
    (Statistics.ofFrame (Frame.at bytes).statistics).InRange ↔
      (∀ position ∈ [978, 982, 986], numberAt bytes position 4 ≤ 10000) ∧
        numberAt bytes 990 4 ≤ 6400 ∧
        (numberAt bytes 982 4 ≤ numberAt bytes 998 4 ∧ numberAt bytes 998 4 ≤ 10000) ∧
        numberAt bytes 1002 4 ≤ numberAt bytes 998 4 := by
  simp only [Statistics.inRange_iff, Statistics.scaled_iff, Statistics.ofFrame, Frame.at,
    Layout.toNat_readAt_word32, averageScale, arrivalMax, List.forall_mem_cons, List.not_mem_nil,
    false_implies, implies_true, and_true]
  constructor
  · rintro ⟨⟨fast, slow, volatility, arrival, peak, drawdown⟩, within⟩
    exact ⟨⟨fast, slow, volatility⟩, arrival, ⟨within, peak⟩, drawdown⟩
  · rintro ⟨⟨fast, slow, volatility⟩, arrival, ⟨within, peak⟩, drawdown⟩
    exact ⟨⟨fast, slow, volatility, arrival, peak, drawdown⟩, within⟩

/-- **A record that was read has the shape that its bytes have.** -/
theorem inShape_iff_shapely (accepted : decode bytes = .ok record) :
    record.InShape ↔ Shapely bytes := by
  obtain ⟨-, tier, statistics, minScore, maxScore⟩ := decode_parts accepted
  have confirmed : record.tier.frame.confirmed.toNat = numberAt bytes 1006 1 :=
    tier ▸ Layout.toNat_readAt_byte
  have candidate : record.tier.frame.candidate.toNat = numberAt bytes 1007 1 :=
    tier ▸ Layout.toNat_readAt_byte
  have lowest : record.minScore.toNat = numberAt bytes 1131 1 :=
    minScore ▸ Layout.toNat_readAt_byte
  have highest : record.maxScore.toNat = numberAt bytes 1132 1 :=
    maxScore ▸ Layout.toNat_readAt_byte
  rw [inShape_iff, shapely_iff, statistics, statistics_at_inRange, UInt8.le_iff_toNat_le, lowest,
    highest, distinct_of_decode accepted, TierMachine.aspires_iff, confirmed, candidate]
  simp only [and_assoc]

/-- **The shape is kept by events and not checked by reading.** Every record of an engine has the
shape after every run. Bytes are read into records of that shape only if they have it themselves
or have another number out of range. -/
theorem shape_kept_not_checked (hashing : Hashing) (config : Config) :
    (∀ calls entity record,
      ((Engine.system hashing config).final calls).record? entity = some record →
        record.InShape) ∧
      ∀ bytes, (∀ record, decode bytes = .ok record → record.InShape) ↔
        (Readable bytes → Shapely bytes) := by
  refine ⟨fun calls entity => shaped_of_run hashing config calls entity, fun bytes => ?_⟩
  constructor
  · intro shaped readable
    obtain ⟨record, accepted⟩ := decode_accepts.mpr readable
    exact (inShape_iff_shapely accepted).mp (shaped record accepted)
  · intro shapely record accepted
    exact (inShape_iff_shapely accepted).mpr (shapely (decode_accepts.mp ⟨record, accepted⟩))

/-- The slot of a rater who has two of them in `warped`. -/
def doubled : Slot := ⟨⟨1⟩, 50, false, 1, 0⟩

/-- A record without a trace of the shape. -/
def warped : Record :=
  { empty ⟨1⟩ 0 0 with
    recency := ((Recency.empty 0).evict doubled).passBy doubled
    statistics :=
      { fast := 20000, slow := 20000, volatility := 20000, arrival := 7000, peak := 10,
        drawdown := 20 }
    tier := ⟨.gold, some .gold, 0⟩
    minScore := 60
    maxScore := 40 }

/-- No part of the shape is checked when a record is read. -/
theorem warped_is_read :
    decode (encode warped) = .ok warped ∧
      (averageScale < warped.statistics.fast.toNat ∧ averageScale < warped.statistics.slow.toNat ∧
        averageScale < warped.statistics.volatility.toNat ∧
        arrivalMax < warped.statistics.arrival.toNat ∧
        warped.statistics.peak < warped.statistics.slow ∧
        warped.statistics.peak < warped.statistics.drawdown) ∧
      warped.maxScore < warped.minScore ∧ ¬ warped.recency.Distinct ∧ ¬ warped.tier.Aspires := by
  have fits : doubled.Storable := ⟨by decide, by decide⟩
  have once := (Recency.evict_puts _ doubled).storable fits (Recency.storable_empty 0).slots
  have twice := (Recency.passBy_puts _ doubled).storable fits once
  refine ⟨decode_encode ⟨⟨twice, by decide⟩, by decide⟩, by decide, by decide,
    fun distinct => ?_, fun aspires => ?_⟩
  · exact absurd (distinct (.ring 0) doubled rfl (.bypass 0) doubled rfl rfl) (by decide)
  · exact absurd (aspires .gold rfl) (by decide)

end Record

end Reputation
