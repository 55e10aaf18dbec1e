/-
**Seals and responses leave no mark on a record.**

The seal of an event goes into its leaf and a response into a chain of its own. Of all that a record
holds, only the heads of the chains and the count of responses are made of them, and from these
nothing else is made. So a record without them, and an event without its seal, come to the same
answers and to the same record but for them.

* `Record.plain`: a record without its heads and its count of responses.
* `Record.ingest_plain`, `Record.revoke_plain`: what comes of an event on it.
* **`Record.ingest_unsealed`**, **`Record.revoke_unsealed`**: feedbacks and revocations on records
  that are the same but for these, one of them without its seal.
-/

import Reputation.Proofs.Record.Update

namespace Reputation

/-- A feedback without its seal. -/
def Feedback.unsealed (event : Feedback) : Feedback := { event with content := ⟨.fill 0⟩ }

/-- A revocation without its seal. -/
def Revocation.unsealed (event : Revocation) : Revocation := { event with claimed := ⟨.fill 0⟩ }

namespace Record

/-- A record without its heads and its count of responses. -/
def plain (record : Record) : Record := { record with heads := {}, responseCount := 0 }

end Record

/-- What an ingested feedback shows, heads and responses aside. -/
def Ingested.shown (ingested : Ingested) : Record × UpdateResult :=
  (ingested.record.plain, ingested.result)

/-- What a revocation shows, heads and responses aside. -/
def Revoked.shown (revoked : Revoked) : Option Record × RevokeResult :=
  (revoked.record.map (·.plain), revoked.result)

namespace Record

variable (record : Record) (hashing : Hashing) (config : Config) {current other : Option Record}

/-! ### Feedback -/

theorem countScore_plain (score : UInt8) :
    Alike (fun counted other => counted.plain = other) (record.countScore score)
      (record.plain.countScore score) := by
  refine (alike_refl _).bind ?_
  rintro count _ rfl
  show Alike _ (if record.feedbackCount = 0 then _ else _)
    (if record.feedbackCount = 0 then _ else _)
  split <;> exact .ok rfl

theorem countEpoch_plain (first : Bool) (epoch : UInt64) :
    Alike (fun counted other => counted.plain = other) (record.countEpoch first epoch)
      (record.plain.countEpoch first epoch) := by
  show Alike _ (if first || epoch != record.currentEpoch then _ else _)
    (if first || epoch != record.currentEpoch then _ else _)
  split
  · refine (alike_refl _).bind ?_
    rintro count _ rfl
    exact .ok rfl
  · exact .ok rfl

theorem book_plain (score : UInt8) (time epoch : UInt64) :
    Alike (fun booked other => booked.plain = other) (record.book score time epoch)
      (record.plain.book score time epoch) := by
  refine (record.countScore_plain score).bind ?_
  rintro counted _ rfl
  refine (counted.countEpoch_plain _ epoch).bind ?_
  rintro counted _ rfl
  exact .ok rfl

theorem opened_plain (current : Option Record) (event : Feedback) :
    Alike (fun record other => record.plain = other) (opened hashing current event)
      (opened hashing (current.map plain) event.unsealed) := by
  cases current with
  | none => exact .ok rfl
  | some record => exact (alike_refl (record.checkTime event.time)).bind fun _ _ _ => .ok rfl

theorem ingest_plain (current : Option Record) (event : Feedback) :
    Alike (fun one two => one.shown = two.shown) (ingest hashing config current event)
      (ingest hashing config (current.map plain) event.unsealed) := by
  refine (alike_refl event.check).bind fun _ _ _ => ?_
  refine (opened_plain hashing current event).bind ?_
  rintro record _ rfl
  -- Neither the rater's slot nor the registers nor the statistics look at what was left out.
  let remembered := (record.recalled hashing config event).1
  refine (remembered.book_plain event.score event.time (config.tiers.epochOf event.time)).bind ?_
  rintro booked _ rfl
  exact .ok rfl

/-- **A feedback is taken in alike without its seal**, by records that are the same but for their
heads and responses. -/
theorem ingest_unsealed (same : current.map plain = other.map plain) (event : Feedback) :
    Alike (fun one two => one.shown = two.shown) (ingest hashing config current event)
      (ingest hashing config other event.unsealed) := by
  have bare := ingest_plain hashing config other event.unsealed
  rw [← same] at bare
  exact (ingest_plain hashing config current event).common bare

/-! ### Revocation -/

theorem settleRevocation_plain (event : Revocation) (score : UInt8) :
    Alike (fun one two => one.shown = two.shown)
      (record.settleRevocation hashing config event score)
      (record.plain.settleRevocation hashing config event.unsealed score) := by
  refine (alike_refl (increment record.revokedCount .revoked)).bind ?_
  rintro count _ rfl
  exact .ok rfl

theorem revoke_plain (current : Option Record) (event : Revocation) :
    Alike (fun one two => one.shown = two.shown) (revoke hashing config current event)
      (revoke hashing config (current.map plain) event.unsealed) := by
  refine (alike_refl event.check).bind fun _ _ _ => ?_
  cases current with
  | none => exact .ok rfl
  | some record =>
    refine (alike_refl (record.checkTime event.time)).bind fun _ _ _ => ?_
    -- The slots are not among what is left out.
    have same : record.plain.lookUp hashing event.unsealed = record.lookUp hashing event := rfl
    unfold lookUp at same
    dsimp only
    rw [same]
    split
    · exact .ok rfl
    · exact .ok rfl
    · rename_i recency score _ _
      exact settleRevocation_plain { record with recency } hashing config event score

/-- **A revocation is carried out alike without its seal**, on records that are the same but for
their heads and responses. -/
theorem revoke_unsealed (same : current.map plain = other.map plain) (event : Revocation) :
    Alike (fun one two => one.shown = two.shown) (revoke hashing config current event)
      (revoke hashing config other event.unsealed) := by
  have bare := revoke_plain hashing config other event.unsealed
  rw [← same] at bare
  exact (revoke_plain hashing config current event).common bare

end Record

end Reputation
