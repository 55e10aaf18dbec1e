/-
**A record sums up its feedbacks.**

Besides what it remembers of its raters and its scores, a record keeps books: how many feedbacks
were accepted, the first and the last score and the extremes, the first and the last time, the
current epoch and how many there were, and the salt of its entity. The books are written at accepted
feedbacks and at nothing else, so under one configuration they are told by the list of these
feedbacks alone.

A new epoch is counted if it differs from the one before, which is the only one that is kept. That
this counts the distinct epochs is owed to the times: no feedback is accepted that is earlier than
the last one, so an epoch that was left never comes back.

* `steadily`, `staged_invariant`, `steady_invariant`: runs of events under one configuration, and
  what every effect keeps along them.
* `feedbacksOn`: the accepted feedbacks on an entity, by the history alone.
* `Chronicle`: the books of a record agree with a list of feedbacks.
* `chronicle_first`, `Chronicle.concat`: the first feedback, and one more.
* **`books_of_run`**: after every run.
-/

import Mathlib.Data.Finset.Card
import Mathlib.Data.Finset.Dedup
import Reputation.Proofs.Engine.Isolation
import Reputation.Proofs.Engine.Accounts
import Reputation.Proofs.Engine.Raters
import Reputation.Proofs.Engine.Time

namespace Reputation

namespace Engine

/-! ### Runs under one configuration -/

/-- The call that brings an event to the engine. -/
def Event.call : Event → Call
  | .feedback event => .ingest event
  | .revocation event => .revoke event
  | .response event => .respond event

/-- The engine as a system that takes events under one configuration, starting without records. -/
def steadily (hashing : Hashing) (config : Config) : System Engine Event Entry where
  start := { config }
  step engine event := engine.call hashing event.call

variable {hashing : Hashing} {config : Config} {entity : EntityId} {history : List Entry}
  {reply : Reply}

/-- No event puts another configuration in force. -/
theorem config_event {engine : Engine} (event : Event) :
    (engine.call hashing event.call).1.config = engine.config := by
  cases event with
  | feedback event => exact config_ingest event
  | revocation event => exact config_revoke event
  | response event => exact config_respond event

/-- **What every effect under one configuration keeps holds after every run of events**, the
engines before and after the events being kept in the history. -/
theorem staged_invariant (Holds : List (Stage Engine Entry) → Option Record → Prop)
    (opening : Holds [] none)
    (kept : ∀ stages reply (before after : Engine), Holds stages (before.record? entity) →
      Effect hashing config entity (before.record? entity) reply (after.record? entity) →
      Holds (stages ++ [⟨before, ⟨config, reply⟩, after⟩]) (after.record? entity))
    (events : List Event) :
    Holds ((steadily hashing config).staged.history events)
      (((steadily hashing config).final events).record? entity) := by
  rw [← System.final_staged]
  have both := (steadily hashing config).staged.invariant
    (fun stages engine => engine.config = config ∧ Holds stages (engine.record? entity))
    ⟨rfl, opening⟩ ?_ events
  · exact both.2
  · rintro stages engine event ⟨rfl, holds⟩
    refine ⟨config_event event, ?_⟩
    show Holds (stages ++ [⟨engine, (engine.call hashing event.call).2, _⟩])
      ((engine.call hashing event.call).1.record? entity)
    rw [entry_call]
    exact kept _ _ _ _ holds (call_effect event.call)

/-- The same with a history of entries alone. -/
theorem steady_invariant (Holds : List Entry → Option Record → Prop) (opening : Holds [] none)
    (kept : ∀ history reply before after, Holds history before →
      Effect hashing config entity before reply after → Holds (history ++ [⟨config, reply⟩]) after)
    (events : List Event) :
    Holds ((steadily hashing config).history events)
      (((steadily hashing config).final events).record? entity) := by
  rw [← System.map_entry_staged]
  refine staged_invariant (fun stages => Holds (stages.map (·.entry))) opening ?_ events
  intro stages reply before after holds effect
  rw [List.map_append]
  exact kept _ _ _ _ holds effect

/-! ### The accepted feedbacks -/

/-- The accepted feedbacks on an entity. -/
def feedbacksOn (entity : EntityId) (history : List Entry) : List Feedback :=
  (acceptedOn entity history).map (·.1)

theorem feedbacksOn_concat_of_still (silent : reply.accepted? entity = none) :
    feedbacksOn entity (history ++ [⟨config, reply⟩]) = feedbacksOn entity history := by
  rw [feedbacksOn, acceptedOn_concat_of_still silent, feedbacksOn]

theorem feedbacksOn_concat_ingested {event : Feedback} (about : event.entity = entity)
    (result : UpdateResult) :
    feedbacksOn entity (history ++ [⟨config, .ingested event (.ok result)⟩]) =
      feedbacksOn entity history ++ [event] := by
  rw [feedbacksOn, acceptedOn_concat, Reply.accepted?, if_pos about, List.map_append]
  rfl

/-! ### Extremes of a list that grows at its end -/

theorem min?_concat {scores : List UInt8} {least : UInt8} (before : scores.min? = some least)
    (fresh : UInt8) : (scores ++ [fresh]).min? = some (min least fresh) := by
  cases scores with
  | nil => cases before
  | cons first rest =>
    rw [List.min?_cons'] at before
    rw [List.cons_append, List.min?_cons', List.foldl_concat, Option.some.inj before]

theorem max?_concat {scores : List UInt8} {greatest : UInt8}
    (before : scores.max? = some greatest) (fresh : UInt8) :
    (scores ++ [fresh]).max? = some (max greatest fresh) := by
  cases scores with
  | nil => cases before
  | cons first rest =>
    rw [List.max?_cons'] at before
    rw [List.cons_append, List.max?_cons', List.foldl_concat, Option.some.inj before]

/-! ### Records and their feedbacks -/

/-- The distinct epochs of some feedbacks. -/
def epochsOf (policy : TierPolicy) (taken : List Feedback) : Finset UInt64 :=
  (taken.map fun event => policy.epochOf event.time).toFinset

/-- The books of a record agree with the feedbacks that were taken into it. -/
structure Chronicle (hashing : Hashing) (policy : TierPolicy) (taken : List Feedback)
    (record : Record) : Prop where
  feedbackCount : record.feedbackCount.toNat = taken.length
  firstScore : (taken.map (·.score)).head? = some record.firstScore
  lastScore : (taken.map (·.score)).getLast? = some record.lastScore
  minScore : (taken.map (·.score)).min? = some record.minScore
  maxScore : (taken.map (·.score)).max? = some record.maxScore
  firstSeen : (taken.map (·.time)).head? = some record.firstSeen
  lastSeen : (taken.map (·.time)).getLast? = some record.lastSeen
  /-- The last time is the latest one. -/
  latest : ∀ event ∈ taken, event.time ≤ record.lastSeen
  currentEpoch : record.currentEpoch = policy.epochOf record.lastSeen
  epochCount : record.epochCount.toNat = (epochsOf policy taken).card
  salt : taken.head?.map (fun first => entitySalt hashing first.entity first.rater first.time) =
    some record.salt

variable {policy : TierPolicy} {taken : List Feedback} {record : Record} {event : Feedback}

theorem mem_epochsOf {epoch : UInt64} :
    epoch ∈ epochsOf policy taken ↔ ∃ event ∈ taken, policy.epochOf event.time = epoch := by
  rw [epochsOf, List.mem_toFinset, List.mem_map]

theorem epochsOf_concat :
    epochsOf policy (taken ++ [event]) =
      insert (policy.epochOf event.time) (epochsOf policy taken) := by
  ext epoch
  rw [mem_epochsOf, Finset.mem_insert, mem_epochsOf]
  simp [or_comm, eq_comm]

/-- The first feedback opens the books. -/
theorem chronicle_first (hashing : Hashing) (config : Config) (event : Feedback) :
    Chronicle hashing config.tiers [event]
      ((Record.empty event.entity (entitySalt hashing event.entity event.rater event.time)
        event.time).takeIn hashing config event).record where
  feedbackCount := rfl
  firstScore := rfl
  lastScore := rfl
  minScore := rfl
  maxScore := rfl
  firstSeen := rfl
  lastSeen := rfl
  latest _ only := List.mem_singleton.mp only ▸ UInt64.le_refl _
  currentEpoch := rfl
  epochCount := rfl
  salt := rfl

namespace Chronicle

theorem not_fresh (chronicle : Chronicle hashing policy taken record) : record.isFresh = false := by
  have counted := chronicle.feedbackCount
  have first := chronicle.firstScore
  refine decide_eq_false fun zero => ?_
  rw [zero] at counted
  obtain rfl := List.length_eq_zero_iff.mp counted.symm
  cases first

/-- The current epoch is the epoch of some feedback. -/
theorem currentEpoch_mem (chronicle : Chronicle hashing policy taken record) :
    record.currentEpoch ∈ epochsOf policy taken := by
  obtain ⟨event, member, last⟩ := List.mem_map.mp (List.mem_of_getLast? chronicle.lastSeen)
  exact mem_epochsOf.mpr ⟨event, member, by rw [last, chronicle.currentEpoch]⟩

/-- No feedback was in an epoch after the current one. -/
theorem epoch_le (chronicle : Chronicle hashing policy taken record) {epoch : UInt64}
    (among : epoch ∈ epochsOf policy taken) : epoch ≤ record.currentEpoch := by
  obtain ⟨event, member, rfl⟩ := mem_epochsOf.mp among
  rw [chronicle.currentEpoch]
  exact policy.epochOf_mono (chronicle.latest event member)

/-- **An epoch that differs from the current one was never seen before.** It is no earlier than the
current one, which is the latest so far. -/
theorem epoch_new (chronicle : Chronicle hashing policy taken record)
    (timely : record.lastSeen ≤ event.time)
    (differs : policy.epochOf event.time ≠ record.currentEpoch) :
    policy.epochOf event.time ∉ epochsOf policy taken := by
  intro seen
  have later : record.currentEpoch ≤ policy.epochOf event.time :=
    chronicle.currentEpoch ▸ policy.epochOf_mono timely
  exact differs (UInt64.le_antisymm (chronicle.epoch_le seen) later)

theorem startsEpoch_iff (chronicle : Chronicle hashing policy taken record) {epoch : UInt64} :
    record.startsEpoch epoch = true ↔ epoch ≠ record.currentEpoch := by
  rw [Record.startsEpoch, chronicle.not_fresh, Bool.false_or, bne_iff_ne]

/-- The epochs are counted right: a feedback starts one exactly if it was never seen before. -/
theorem epochCount_concat (chronicle : Chronicle hashing policy taken record)
    (timely : record.lastSeen ≤ event.time)
    (room : record.RoomFor (policy.epochOf event.time)) :
    (if record.startsEpoch (policy.epochOf event.time) then record.epochCount + 1
      else record.epochCount).toNat = (epochsOf policy (taken ++ [event])).card := by
  rw [epochsOf_concat]
  split
  · rename_i starts
    have unseen := chronicle.epoch_new timely (chronicle.startsEpoch_iff.mp starts)
    rw [Finset.card_insert_of_notMem unseen, (room.epochs starts).toNat_add_one,
      chronicle.epochCount]
  · rename_i goesOn
    have same : policy.epochOf event.time = record.currentEpoch :=
      Decidable.not_not.mp (chronicle.startsEpoch_iff.not.mp goesOn)
    rw [same, Finset.insert_eq_of_mem chronicle.currentEpoch_mem, chronicle.epochCount]

/-- The current epoch is that of the last feedback, whether it starts there or goes on. -/
theorem currentEpoch_concat (chronicle : Chronicle hashing policy taken record) (epoch : UInt64) :
    (if record.startsEpoch epoch then epoch else record.currentEpoch) = epoch := by
  split
  · rfl
  · rename_i goesOn
    exact (Decidable.not_not.mp (chronicle.startsEpoch_iff.not.mp goesOn)).symm

/-- **One more feedback is booked.** -/
theorem concat (chronicle : Chronicle hashing config.tiers taken record)
    (timely : record.lastSeen ≤ event.time)
    (room : record.RoomFor (config.tiers.epochOf event.time)) :
    Chronicle hashing config.tiers (taken ++ [event])
      (record.takeIn hashing config event).record where
  feedbackCount := by
    show (record.feedbackCount + 1).toNat = _
    rw [room.feedback.toNat_add_one, chronicle.feedbackCount, List.length_append,
      List.length_singleton]
  firstScore := by
    show _ = some (if record.isFresh then event.score else record.firstScore)
    rw [chronicle.not_fresh, List.map_append, List.head?_append, chronicle.firstScore]
    rfl
  lastScore := by
    rw [List.map_append]
    exact List.getLast?_concat
  minScore := by
    show _ = some (record.noted hashing config event).minScore
    rw [Record.minScore_noted, chronicle.not_fresh, List.map_append]
    exact min?_concat chronicle.minScore event.score
  maxScore := by
    show _ = some (record.noted hashing config event).maxScore
    rw [Record.maxScore_noted, chronicle.not_fresh, List.map_append]
    exact max?_concat chronicle.maxScore event.score
  firstSeen := by
    show _ = some record.firstSeen
    rw [List.map_append, List.head?_append, chronicle.firstSeen]
    rfl
  lastSeen := by
    rw [List.map_append]
    exact List.getLast?_concat
  latest other member := by
    rcases List.mem_append.mp member with before | here
    · exact UInt64.le_trans (chronicle.latest other before) timely
    · exact List.mem_singleton.mp here ▸ UInt64.le_refl _
  currentEpoch := chronicle.currentEpoch_concat _
  epochCount := chronicle.epochCount_concat timely room
  salt := by
    show _ = some record.salt
    rw [List.head?_append, ← chronicle.salt]
    cases taken with
    | nil => cases chronicle.firstScore
    | cons first rest => rfl

end Chronicle

/-! ### Runs -/

/-- The books of an entity: there are none without an accepted feedback, and otherwise they agree
with the accepted ones. -/
def Chronicled (hashing : Hashing) (policy : TierPolicy) (entity : EntityId)
    (history : List Entry) : Option Record → Prop
  | none => feedbacksOn entity history = []
  | some record => Chronicle hashing policy (feedbacksOn entity history) record

/-- **Every effect keeps the books in agreement with the accepted feedbacks.** -/
theorem Chronicled.step {before after : Option Record}
    (chronicled : Chronicled hashing config.tiers entity history before)
    (effect : Effect hashing config entity before reply after) :
    Chronicled hashing config.tiers entity (history ++ [⟨config, reply⟩]) after := by
  cases effect with
  | kept still =>
    have same : feedbacksOn entity (history ++ [⟨config, reply⟩]) = feedbacksOn entity history :=
      feedbacksOn_concat_of_still (accepted?_of_still still)
    cases before <;> simpa only [Chronicled, same] using chronicled
  | ingested about checked entered room =>
    rw [Chronicled, feedbacksOn_concat_ingested about]
    rcases Record.opened_eq_ok.mp entered with ⟨rfl, timely⟩ | ⟨rfl, rfl⟩
    · exact Chronicle.concat chronicled timely room
    · rw [show feedbacksOn entity history = [] from chronicled]
      exact chronicle_first hashing config _
  | revoked about checked timely found room settles =>
    subst settles
    rw [Chronicled, feedbacksOn_concat_of_still rfl]
    exact { (chronicled : Chronicle _ _ _ _) with }
  | responded about checked room =>
    rw [Chronicled, feedbacksOn_concat_of_still rfl]
    exact { (chronicled : Chronicle _ _ _ _) with }

/-- **The books of a record are those of its accepted feedbacks.** Take any run of feedbacks,
revocations and responses under one configuration, within bounds or not and under any hash function,
and any entity. If no feedback on the entity was accepted, it has no record. Otherwise it has one,
whose counts, scores, times, epochs and salt are told by the list of the accepted feedbacks: what
was refused, revoked or answered has left no trace in them. -/
theorem books_of_run (hashing : Hashing) (config : Config) (events : List Event)
    (entity : EntityId) :
    let taken := feedbacksOn entity ((steadily hashing config).history events)
    let current := ((steadily hashing config).final events).record? entity
    (taken = [] ∧ current = none) ∨
      ∃ record, current = some record ∧ Chronicle hashing config.tiers taken record := by
  intro taken current
  have chronicled : Chronicled hashing config.tiers entity
      ((steadily hashing config).history events) current :=
    steady_invariant (Chronicled hashing config.tiers entity) rfl
      (fun _ _ _ _ chronicled effect => chronicled.step effect) events
  cases known : current with
  | none =>
    rw [known] at chronicled
    exact .inl ⟨chronicled, rfl⟩
  | some record =>
    rw [known] at chronicled
    exact .inr ⟨record, rfl, chronicled⟩

/-- A feedback on the first entity by the rater of the given seed, as an event. -/
def rate (seed : UInt64) (score : UInt8) (time : UInt64) : Event :=
  .feedback ⟨⟨1⟩, ⟨.ofSeed seed⟩, score, 1, time, ⟨.fill 0⟩⟩

/-- Three feedbacks in two epochs, the first one revoked; two that are refused, for a score and for
a time; and a response. -/
def annals : List Event :=
  [rate 1 80 0, rate 2 101 5, .revocation ⟨⟨1⟩, ⟨.ofSeed 1⟩, 1, 25, ⟨.fill 0⟩⟩, rate 2 90 20,
    rate 3 40 10, rate 1 60 29, .response ⟨⟨1⟩, ⟨.ofSeed 1⟩, 1, 99, ⟨.fill 0⟩⟩]

/-- The books of three feedbacks show two epochs, the first of them being zero. -/
theorem books_of_annals :
    let taken := feedbacksOn ⟨1⟩ ((steadily summing lenient).history annals)
    taken.map (·.score) = [80, 90, 60] ∧ taken.map (·.time) = [0, 20, 29] ∧
      ∃ record, ((steadily summing lenient).final annals).record? ⟨1⟩ = some record ∧
        Chronicle summing lenient.tiers taken record ∧ record.epochCount = 2 := by
  intro taken
  have scores : taken.map (·.score) = [80, 90, 60] := by decide +kernel
  have counted : (((steadily summing lenient).final annals).record? ⟨1⟩).map (·.epochCount) =
      some 2 := by decide +kernel
  refine ⟨scores, by decide +kernel, ?_⟩
  rcases books_of_run summing lenient annals ⟨1⟩ with ⟨-, absent⟩ | ⟨record, known, books⟩
  · rw [absent] at counted
    cases counted
  · rw [known] at counted
    exact ⟨record, known, books, Option.some.inj counted⟩

end Engine

end Reputation
