/-
**A batch is as good as its feedbacks in turn.**

A batch is worked off group by group, and the groups may as well be interleaved. Nothing of that
can be seen afterwards: the answers stand in the order of the batch and are those that the
feedbacks would have got one after the other, and the engine is left the same.

* `IsSchedule`: the orders in which a batch may be worked off, of which `Batch.schedule` is one.
* `map_snd_mergeSort`: numbered answers are brought back into order by their numbers.
* `ingestScheduled_inTurn`: every schedule of a batch is as good as the feedbacks in turn.
* **`isolated_entities`**: interleaved runs cannot be told apart, nor can a batch from its feedbacks
  in turn.
-/

import Reputation.Engine.Batch
import Reputation.Hash.Blake3
import Reputation.Proofs.Engine.Isolation

namespace Reputation

/-! ### Schedules -/

namespace Batch

/-- The feedbacks of a batch, each with its place. -/
def numbered (events : List Feedback) : List Numbered :=
  events.zipIdx.map fun item => (item.2, item.1)

theorem map_snd_numbered (events : List Feedback) : (numbered events).map (·.2) = events := by
  rw [numbered, List.map_map]
  exact List.zipIdx_map_fst 0 events

/-- A schedule works off the groups of a batch, each in its order: one after the other, or
interleaved. -/
def IsSchedule (events : List Feedback) (schedule : List Numbered) : Prop :=
  ∀ entity, schedule.filter (·.2.entity = entity) = group events entity

theorem IsSchedule.interleaves {events : List Feedback} {schedule : List Numbered}
    (works : IsSchedule events schedule) :
    Interleaves (·.2.entity) schedule (numbered events) := works

/-- Of lists that are empty but for one key, each taken once, the list of that key is left. -/
theorem flatMap_eraseDups_of_single {Key Item : Type} [DecidableEq Key] {part : Key → List Item}
    {which : Key} (single : ∀ key, key ≠ which → part key = []) (keys : List Key) :
    keys.eraseDups.flatMap part = if which ∈ keys then part which else [] := by
  -- The rest of the list is filtered before duplicates are erased from it, so the induction is on
  -- the length.
  induction size : keys.length using Nat.strongRecOn generalizing keys with
  | ind length ih =>
    cases keys with
    | nil => rfl
    | cons key rest =>
      have shorter : (rest.filter fun other => !other == key).length < length := by
        rw [← size]
        exact Nat.lt_succ_of_le (List.length_filter_le _ _)
      rw [List.eraseDups_cons, List.flatMap_cons, ih _ shorter _ rfl]
      by_cases here : key = which
      · subst here
        simp
      · rw [single key here]
        simp [Ne.symm here]

/-- **Group after group is a schedule.** -/
theorem isSchedule_schedule (events : List Feedback) : IsSchedule events (schedule events) := by
  intro entity
  have group_other (other : EntityId) (apart : other ≠ entity) :
      (group events other).filter (·.2.entity = entity) = [] := by
    rw [List.filter_eq_nil_iff]
    intro item member
    have about : item.2.entity = other := by simpa using (List.mem_filter.mp member).2
    simp [about, apart]
  have group_own : (group events entity).filter (·.2.entity = entity) = group events entity := by
    simp [group, List.filter_filter]
  rw [schedule, List.filter_flatMap, entities, flatMap_eraseDups_of_single group_other, group_own]
  split
  · rfl
  · rename_i nowhere
    -- No feedback of the batch is on the entity, so its group is empty.
    symm
    rw [group, List.filter_eq_nil_iff]
    intro item member
    obtain ⟨⟨event, place⟩, listed, rfl⟩ := List.mem_map.mp member
    have among : event ∈ events := List.mem_of_getElem? (List.mk_mem_zipIdx_iff_getElem?.mp listed)
    have differs : event.entity ≠ entity := fun same =>
      nowhere (List.mem_map.mpr ⟨event, among, same⟩)
    simpa using differs

end Batch

/-! ### Answers in order -/

section Ordering

variable {Answer : Type}

/-- **Numbered answers are brought back into order by their numbers.** -/
theorem map_snd_mergeSort {answers : List Answer} {scattered : List (Nat × Answer)}
    (same : scattered.Perm (answers.zipIdx.map fun item => (item.2, item.1))) :
    (scattered.mergeSort fun first second => first.1 ≤ second.1).map (·.2) = answers := by
  have rising : (answers.zipIdx.map fun item => (item.2, item.1)).Pairwise
      (fun first second => first.1 ≤ second.1) := by
    rw [List.pairwise_map, ← List.pairwise_map (f := Prod.snd) (R := (· ≤ ·)), List.zipIdx_map_snd]
    exact (List.pairwise_lt_range' 1).imp Nat.le_of_lt
  have sorted : (scattered.mergeSort fun first second => first.1 ≤ second.1).Pairwise
      (fun first second => first.1 ≤ second.1) := by
    refine (List.pairwise_mergeSort ?_ ?_ scattered).imp of_decide_eq_true
    · intro one two three
      simpa using Nat.le_trans
    · intro one two
      simpa using Nat.le_total one.1 two.1
  have restored : (scattered.mergeSort fun first second => first.1 ≤ second.1) =
      answers.zipIdx.map fun item => (item.2, item.1) := by
    refine List.Perm.eq_of_pairwise ?_ sorted rising ((List.mergeSort_perm _ _).trans same)
    intro one two member memberToo below above
    -- Two answers with one number are the same answer.
    have listed := (List.mergeSort_perm _ _).mem_iff.mp member
    rw [same.mem_iff] at listed
    obtain ⟨⟨answer, place⟩, here, rfl⟩ := List.mem_map.mp listed
    obtain ⟨⟨other, placeToo⟩, hereToo, rfl⟩ := List.mem_map.mp memberToo
    obtain rfl : place = placeToo := Nat.le_antisymm below above
    rw [List.mk_mem_zipIdx_iff_getElem?] at here hereToo
    rw [Option.some.inj (here.symm.trans hereToo)]
  rw [restored, List.map_map]
  exact List.zipIdx_map_fst 0 answers

end Ordering

namespace Engine

/-! ### Feedbacks in turn -/

/-- The engine as a system that takes feedbacks one after the other. -/
def intake (hashing : Hashing) : System Engine Feedback (Except Error UpdateResult) where
  start := {}
  step engine event :=
    let outcome := engine.ingest hashing event
    (outcome.engine, outcome.answer)

variable {engine : Engine} {hashing : Hashing} {events : List Feedback} {schedule : List Numbered}

/-- **Feedbacks keep to the slots of their entities.** -/
theorem intake_isolated (hashing : Hashing) :
    (intake hashing).Isolated Feedback.entity share where
  elsewhere _ _ _ := share_applyIngest_of_ne
  here _ _ _ same := by
    obtain ⟨answer, -, share⟩ := applyIngest_agree hashing same
    exact ⟨answer, share⟩

theorem finalFrom_intake (engine : Engine) (events : List Feedback) :
    (intake hashing).finalFrom engine events =
      (dispatch hashing).finalFrom engine (events.map .feedback) := by
  induction events generalizing engine with
  | nil => rfl
  | cons event rest ih => exact ih _

/-- The engine as a system that takes numbered feedbacks. -/
def numberedIntake (hashing : Hashing) : System Engine Numbered (Except Error UpdateResult) :=
  (intake hashing).renamed (·.2)

theorem ingestAll_engine (engine : Engine) (schedule : List Numbered) :
    (engine.ingestAll hashing schedule).1 = (intake hashing).finalFrom engine
      (schedule.map (·.2)) := by
  induction schedule generalizing engine with
  | nil => rfl
  | cons item rest ih => exact ih _

/-- Each answer is kept with the number of its feedback. -/
theorem ingestAll_answers (engine : Engine) (schedule : List Numbered) :
    (engine.ingestAll hashing schedule).2.1 =
      ((numberedIntake hashing).transcriptFrom engine schedule).map
        fun entry => (entry.1.1, entry.2) := by
  induction schedule generalizing engine with
  | nil => rfl
  | cons item rest ih => exact congrArg _ (ih _)

theorem transcriptFrom_numbered (engine : Engine) (events : List Feedback) (start : Nat) :
    ((numberedIntake hashing).transcriptFrom engine
        ((events.zipIdx start).map fun item => (item.2, item.1))).map
        (fun entry => (entry.1.1, entry.2)) =
      (((intake hashing).historyFrom engine events).zipIdx start).map
        fun item => (item.2, item.1) := by
  induction events generalizing engine start with
  | nil => rfl
  | cons event rest ih => exact congrArg _ (ih _ _)

/-! ### Batches -/

/-- **A schedule of a batch gives the answers that its feedbacks would get in turn.** -/
theorem ingestScheduled_answers (engine : Engine) (hashing : Hashing)
    (works : Batch.IsSchedule events schedule) :
    (engine.ingestScheduled hashing schedule).answers =
      (intake hashing).historyFrom engine events := by
  have isolated : (numberedIntake hashing).Isolated (·.2.entity) share :=
    (intake_isolated hashing).renamed _
  have transcripts := (isolated.transcript_eq engine works.interleaves).perm
  refine map_snd_mergeSort ?_
  rw [ingestAll_answers, ← transcriptFrom_numbered]
  exact transcripts.map _

/-- **A schedule of a batch leaves the engine that its feedbacks would leave in turn.** -/
theorem ingestScheduled_engine (engine : Engine) (hashing : Hashing)
    (works : Batch.IsSchedule events schedule) :
    (engine.ingestScheduled hashing schedule).engine =
      (intake hashing).finalFrom engine events := by
  show (engine.ingestAll hashing schedule).1 = _
  rw [ingestAll_engine, finalFrom_intake, finalFrom_intake]
  have unnumbered : Interleaves Feedback.entity (schedule.map (·.2))
      ((Batch.numbered events).map (·.2)) := works.interleaves.map _
  rw [Batch.map_snd_numbered] at unnumbered
  exact finalFrom_eq engine (unnumbered.map Event.feedback)

/-- What came of a batch cannot be told from its feedbacks in turn. -/
structure InTurn (hashing : Hashing) (engine : Engine) (events : List Feedback)
    (outcome : BatchOutcome) : Prop where
  length : outcome.answers.length = events.length
  /-- Each place has the answer that the feedback at that place gets in turn. -/
  answers : outcome.answers = (intake hashing).historyFrom engine events
  /-- Records, slots and counters are those after the feedbacks in turn. -/
  engine : outcome.engine = (intake hashing).finalFrom engine events

/-- **A schedule of a batch is as good as its feedbacks in turn.** -/
theorem ingestScheduled_inTurn (engine : Engine) (hashing : Hashing)
    (works : Batch.IsSchedule events schedule) :
    InTurn hashing engine events (engine.ingestScheduled hashing schedule) := by
  have answers := ingestScheduled_answers engine hashing works
  refine ⟨?_, answers, ingestScheduled_engine engine hashing works⟩
  rw [answers, System.length_historyFrom]

/-- **A batch is as good as its feedbacks in turn.** -/
theorem ingestBatch_inTurn (engine : Engine) (hashing : Hashing) (events : List Feedback) :
    InTurn hashing engine events (engine.ingestBatch hashing events) := by
  obtain ⟨length, answers, last⟩ :=
    ingestScheduled_inTurn engine hashing (Batch.isSchedule_schedule events)
  exact ⟨length, answers, last⟩

/-- **Entities are isolated, and batches cannot be told from feedbacks in turn.** From any engine,
take two runs of feedbacks, revocations and responses in which the events of each entity are the
same and in the same order. Event by event, as they follow each other on an entity, both get the
same answers and reports, and they end in one and the same engine, records and counters included.
And a batch, in whatever order its groups are worked off or interleaved, gives one answer for each
of its feedbacks, at its place the one that it gets in turn, and leaves the same engine. -/
theorem isolated_entities (hashing : Hashing) (engine : Engine) :
    (∀ first second : List Event, Interleaves Event.entity first second →
      Interleaves (·.1.entity) ((dispatch hashing).transcriptFrom engine first)
          ((dispatch hashing).transcriptFrom engine second) ∧
        (dispatch hashing).finalFrom engine first =
          (dispatch hashing).finalFrom engine second) ∧
      ∀ events : List Feedback,
        InTurn hashing engine events (engine.ingestBatch hashing events) ∧
          ∀ schedule, Batch.IsSchedule events schedule →
            InTurn hashing engine events (engine.ingestScheduled hashing schedule) := by
  refine ⟨fun first second same => ?_, fun events => ⟨?_, fun schedule works => ?_⟩⟩
  · exact ⟨(dispatch_isolated hashing).transcript_eq engine same, finalFrom_eq engine same⟩
  · exact ingestBatch_inTurn engine hashing events
  · exact ingestScheduled_inTurn engine hashing works

/-- A feedback on an entity by the rater of the given seed. -/
def opinion (entity seed : UInt64) (score : UInt8) (time : UInt64) : Feedback :=
  ⟨⟨entity⟩, ⟨.ofSeed seed⟩, score, 1, time, ⟨.fill 0⟩⟩

/-- A feedback on the first entity and its revocation, then a feedback on the second that is refused
and a response that finds no record. -/
def orderly : List Event :=
  [.feedback (opinion 1 5 80 10), .revocation ⟨⟨1⟩, ⟨.ofSeed 5⟩, 1, 20, ⟨.fill 0⟩⟩,
    .feedback (opinion 2 6 101 5), .response ⟨⟨2⟩, ⟨.ofSeed 6⟩, 1, 30, ⟨.fill 0⟩⟩]

/-- The same events, those on the second entity coming before those on the first. -/
def shuffled : List Event :=
  [.feedback (opinion 2 6 101 5), .feedback (opinion 1 5 80 10),
    .response ⟨⟨2⟩, ⟨.ofSeed 6⟩, 1, 30, ⟨.fill 0⟩⟩,
    .revocation ⟨⟨1⟩, ⟨.ofSeed 5⟩, 1, 20, ⟨.fill 0⟩⟩]

/-- A batch that comes back to its first entity after a feedback that is refused. -/
def returningBatch : List Feedback := [opinion 1 5 80 10, opinion 2 6 101 5, opinion 1 6 40 15]

/-- A schedule that takes the second group first. -/
def secondFirst : List Numbered :=
  [(1, opinion 2 6 101 5), (0, opinion 1 5 80 10), (2, opinion 1 6 40 15)]

/-- Shuffled events on two entities and a batch whose second group goes first. -/
theorem isolated_entities_shuffled :
    Interleaves Event.entity orderly shuffled ∧ Batch.IsSchedule returningBatch secondFirst ∧
      Interleaves (·.1.entity) ((dispatch .blake3).transcriptFrom {} orderly)
        ((dispatch .blake3).transcriptFrom {} shuffled) ∧
      (dispatch .blake3).finalFrom {} orderly = (dispatch .blake3).finalFrom {} shuffled ∧
      InTurn .blake3 {} returningBatch (ingestScheduled {} .blake3 secondFirst) := by
  have same : Interleaves Event.entity orderly shuffled := by
    refine .trans (.cons (.swap ?_ _) _) (.trans (.swap ?_ _) (.cons (.cons (.swap ?_ _) _) _))
    all_goals decide
  have works : Batch.IsSchedule returningBatch secondFirst :=
    Interleaves.swap (by decide) _
  obtain ⟨runs, batches⟩ := isolated_entities .blake3 {}
  exact ⟨same, works, (runs _ _ same).1, (runs _ _ same).2, (batches _).2 _ works⟩

end Engine

end Reputation
