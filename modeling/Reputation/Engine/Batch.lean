/-
**Batches.**

The feedbacks of a batch are grouped by entity, each with its place in the batch. The groups are
worked off one after the other, and the answers are put back in the order of the batch. Inside a
group the order of the batch is kept.

`Engine.ingestScheduled` works off any schedule of numbered feedbacks; a batch is the schedule that
takes the groups in the order in which their entities first come up.
-/

import Reputation.Engine.Basic

namespace Reputation

/-- A feedback with its place in a batch. -/
abbrev Numbered := Nat × Feedback

namespace Batch

/-- The entities of some feedbacks, in the order in which they first come up. -/
def entities (events : List Feedback) : List EntityId := (events.map (·.entity)).eraseDups

/-- The feedbacks on one entity, each with its place. -/
def group (events : List Feedback) (entity : EntityId) : List Numbered :=
  (events.zipIdx.map fun item => (item.2, item.1)).filter (·.2.entity = entity)

/-- The order in which a batch is worked off: group after group. -/
def schedule (events : List Feedback) : List Numbered := (entities events).flatMap (group events)

end Batch

/-- What came of a list of calls. -/
structure BatchOutcome where
  engine : Engine
  answers : List (Except Error UpdateResult)
  log : List LogEntry

namespace Engine

/-- Takes in numbered feedbacks one after the other and keeps each answer with its number. -/
def ingestAll (engine : Engine) (hashing : Hashing) :
    List Numbered → Engine × List (Nat × Except Error UpdateResult) × List LogEntry
  | [] => (engine, [], [])
  | (place, event) :: rest =>
    let outcome := engine.ingest hashing event
    let (last, answers, log) := outcome.engine.ingestAll hashing rest
    (last, (place, outcome.answer) :: answers, outcome.log ++ log)

/-- Works off a schedule, the answers in the order of the numbers. -/
def ingestScheduled (engine : Engine) (hashing : Hashing) (schedule : List Numbered) :
    BatchOutcome :=
  let (last, answers, log) := engine.ingestAll hashing schedule
  ⟨last, (answers.mergeSort fun first second => first.1 ≤ second.1).map (·.2), log⟩

/-- Takes in a batch of feedbacks, the answers in the order of the batch. -/
def ingestBatch (engine : Engine) (hashing : Hashing) (events : List Feedback) : BatchOutcome :=
  let outcome := engine.ingestScheduled hashing (Batch.schedule events)
  { outcome with
    log := .batchSpan events.length (Batch.entities events).length :: outcome.log }

end Engine

end Reputation
