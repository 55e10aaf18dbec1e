/-
**Why an event is refused.**

A feedback or a revocation is refused for one of three reasons: it is malformed, it is earlier than
the last accepted feedback on its entity, or a counter of the record is full. What is proved of
refused events splits on these three and never on the steps of `ingest` and `revoke`.

* `fault_of_check`, `fault_of_checkSequence`: a malformed event is not refused for its time.
* `IngestRefusal`, `ingest_refusal`: why a feedback is refused.
* `RevokeRefusal`, `revoke_refusal`: why a revocation is refused.
* `ingest_late`, `revoke_late`: what is earlier than the last accepted feedback is refused.
* `late_of_ingest`, `late_of_revoke`: nothing else is called backwards in time.
-/

import Reputation.Proofs.Record.Update

namespace Reputation

namespace Record

variable {record : Record} {hashing : Hashing} {config : Config} {current : Option Record}
  {time last : UInt64} {error : Error}

/-! ### The single steps -/

theorem increment_eq_error {count : UInt32} {counter : Counter} :
    increment count counter = .error error ↔ ¬ HasRoom count ∧ .overflow counter = error := by
  unfold increment HasRoom
  split <;> simp_all

theorem checkTime_eq_error : record.checkTime time = .error error ↔
    time < record.lastSeen ∧ .validation (.timeBackwards time record.lastSeen) = error := by
  unfold checkTime
  split
  · rename_i late
    simp only [late, true_and, Except.error.injEq]
  · rename_i timely
    simp only [timely, false_and, reduceCtorEq]

theorem fault_of_checkSequence {sequence : UInt64}
    (failed : checkSequence sequence = .error error) :
    ∃ fault, error = .validation fault ∧ ∀ time last, fault ≠ .timeBackwards time last := by
  unfold checkSequence at failed
  split at failed
  · cases failed
    exact ⟨_, rfl, nofun⟩
  · cases failed

theorem fault_of_check {event : Feedback} (failed : event.check = .error error) :
    ∃ fault, error = .validation fault ∧ ∀ time last, fault ≠ .timeBackwards time last := by
  unfold Feedback.check at failed
  split at failed
  · cases failed
    exact ⟨_, rfl, nofun⟩
  · exact fault_of_checkSequence failed

/-- A feedback fails to be booked with a full counter. -/
theorem overflow_of_book {score : UInt8} {epoch : UInt64}
    (failed : record.book score time epoch = .error error) :
    ∃ counter, error = .overflow counter := by
  rcases bind_eq_error.mp failed with score | ⟨counted, -, failed⟩
  · rcases bind_eq_error.mp score with full | ⟨_, -, failed⟩
    · exact ⟨_, (increment_eq_error.mp full).2.symm⟩
    · split at failed <;> cases failed
  · rcases bind_eq_error.mp failed with epochs | ⟨_, -, failed⟩
    · unfold countEpoch at epochs
      split at epochs
      · rcases bind_eq_error.mp epochs with full | ⟨_, -, failed⟩
        · exact ⟨_, (increment_eq_error.mp full).2.symm⟩
        · cases failed
      · cases epochs
    · cases failed

/-- **Nothing but a full counter keeps a feedback from being booked.** -/
theorem full_of_book {score : UInt8} {epoch : UInt64}
    (failed : record.book score time epoch = .error error) :
    ¬ record.RoomFor epoch ∧ ∃ counter, error = .overflow counter := by
  refine ⟨fun room => ?_, overflow_of_book failed⟩
  cases failed.symm.trans (book_eq_ok.mpr ⟨room, rfl⟩)

/-- **Nothing but a full counter keeps a revocation from being settled.** -/
theorem full_of_settleRevocation {event : Revocation} {score : UInt8}
    (failed : record.settleRevocation hashing config event score = .error error) :
    ¬ HasRoom record.revokedCount ∧ .overflow .revoked = error := by
  rcases bind_eq_error.mp failed with full | ⟨_, -, failed⟩
  · exact increment_eq_error.mp full
  · cases failed

/-! ### Feedback -/

/-- Why a feedback is refused. -/
inductive IngestRefusal (hashing : Hashing) (config : Config) (event : Feedback) :
    Option Record → Error → Prop
  /-- It is malformed. -/
  | malformed {current : Option Record} {error : Error} (failed : event.check = .error error) :
      IngestRefusal hashing config event current error
  /-- It is earlier than the last accepted feedback. -/
  | late {record : Record} (earlier : event.time < record.lastSeen) :
      IngestRefusal hashing config event (some record)
        (.validation (.timeBackwards event.time record.lastSeen))
  /-- A counter of the record that it enters is full. -/
  | full {current : Option Record} {record : Record}
      (entered : opened hashing current event = .ok record)
      (full : ¬ record.RoomFor (config.tiers.epochOf event.time)) (counter : Counter) :
      IngestRefusal hashing config event current (.overflow counter)

theorem ingest_refusal {event : Feedback}
    (failed : ingest hashing config current event = .error error) :
    IngestRefusal hashing config event current error := by
  rcases bind_eq_error.mp failed with malformed | ⟨_, -, failed⟩
  · exact .malformed malformed
  · rcases bind_eq_error.mp failed with unopened | ⟨record, entered, failed⟩
    · cases current with
      | none => cases unopened
      | some record =>
        rcases bind_eq_error.mp unopened with backwards | ⟨_, -, unopened⟩
        · obtain ⟨earlier, rfl⟩ := checkTime_eq_error.mp backwards
          exact .late earlier
        · cases unopened
    · rcases bind_eq_error.mp failed with unbooked | ⟨_, -, failed⟩
      · obtain ⟨full, counter, rfl⟩ := full_of_book unbooked
        -- Remembering a feedback leaves the counters alone.
        exact .full entered (fun room => full ⟨room.feedback, room.epochs⟩) counter
      · cases failed

/-- **A feedback that is earlier than the last accepted one is refused.** -/
theorem ingest_late (hashing : Hashing) (config : Config) {event : Feedback}
    (late : event.time < record.lastSeen) :
    ∃ fault, ingest hashing config (some record) event = .error (.validation fault) := by
  cases checked : event.check with
  | error error =>
    obtain ⟨fault, rfl, -⟩ := fault_of_check checked
    exact ⟨fault, bind_eq_error.mpr (.inl checked)⟩
  | ok =>
    have unopened : opened hashing (some record) event =
        .error (.validation (.timeBackwards event.time record.lastSeen)) :=
      bind_eq_error.mpr (.inl (checkTime_eq_error.mpr ⟨late, rfl⟩))
    exact ⟨.timeBackwards event.time record.lastSeen,
      bind_eq_error.mpr (.inr ⟨_, checked, bind_eq_error.mpr (.inl unopened)⟩)⟩

/-- **No other feedback is refused for its time.** -/
theorem late_of_ingest {event : Feedback}
    (refused : ingest hashing config current event =
      .error (.validation (.timeBackwards time last))) :
    event.time = time ∧ ∃ record, current = some record ∧ record.lastSeen = last ∧ time < last := by
  cases ingest_refusal refused with
  | malformed failed =>
    obtain ⟨_, ⟨⟩, other⟩ := fault_of_check failed
    exact absurd rfl (other _ _)
  | late earlier => exact ⟨rfl, _, rfl, rfl, earlier⟩

/-! ### Revocation -/

/-- Why a revocation is refused. -/
inductive RevokeRefusal (hashing : Hashing) (event : Revocation) : Option Record → Error → Prop
  /-- It is malformed. -/
  | malformed {current : Option Record} {error : Error} (failed : event.check = .error error) :
      RevokeRefusal hashing event current error
  /-- It is earlier than the last accepted feedback. -/
  | late {record : Record} (earlier : event.time < record.lastSeen) :
      RevokeRefusal hashing event (some record)
        (.validation (.timeBackwards event.time record.lastSeen))
  /-- The feedback could be revoked, but the counter of revocations is full. -/
  | full {record : Record} {recency : Recency} {score : UInt8} {location : Location}
      (found : record.lookUp hashing event = (recency, .revoked score location))
      (full : ¬ HasRoom record.revokedCount) :
      RevokeRefusal hashing event (some record) (.overflow .revoked)

theorem revoke_refusal {event : Revocation}
    (failed : revoke hashing config current event = .error error) :
    RevokeRefusal hashing event current error := by
  rcases bind_eq_error.mp failed with malformed | ⟨_, -, failed⟩
  · exact .malformed malformed
  · cases current with
    | none => cases failed
    | some record =>
      rcases bind_eq_error.mp failed with backwards | ⟨_, -, failed⟩
      · obtain ⟨earlier, rfl⟩ := checkTime_eq_error.mp backwards
        exact .late earlier
      · dsimp only at failed
        split at failed
        · cases failed
        · cases failed
        · rename_i found
          obtain ⟨full, rfl⟩ := full_of_settleRevocation failed
          exact .full found full

/-- **A revocation that is earlier than the last accepted feedback is refused.** -/
theorem revoke_late (hashing : Hashing) (config : Config) {event : Revocation}
    (late : event.time < record.lastSeen) :
    ∃ fault, revoke hashing config (some record) event = .error (.validation fault) := by
  cases checked : event.check with
  | error error =>
    obtain ⟨fault, rfl, -⟩ := fault_of_checkSequence checked
    exact ⟨fault, bind_eq_error.mpr (.inl checked)⟩
  | ok =>
    have refused := checkTime_eq_error.mpr ⟨late, rfl⟩
    exact ⟨.timeBackwards event.time record.lastSeen,
      bind_eq_error.mpr (.inr ⟨_, checked, bind_eq_error.mpr (.inl refused)⟩)⟩

/-- **No other revocation is refused for its time.** -/
theorem late_of_revoke {event : Revocation}
    (refused : revoke hashing config current event =
      .error (.validation (.timeBackwards time last))) :
    event.time = time ∧ ∃ record, current = some record ∧ record.lastSeen = last ∧ time < last := by
  cases revoke_refusal refused with
  | malformed failed =>
    obtain ⟨_, ⟨⟩, other⟩ := fault_of_checkSequence failed
    exact absurd rfl (other _ _)
  | late earlier => exact ⟨rfl, _, rfl, rfl, earlier⟩

end Record

end Reputation
