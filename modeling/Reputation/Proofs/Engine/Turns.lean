/-
**Runs of requests, turn by turn.**

A turn is a call with its reply and with the tier of its entity before and after it. A run of
requests unrolls into turns, a batch into one turn for each of its feedbacks.

* `Turn`, `watching`: the engine as a system whose history is made of turns.
* `Request.calls`, `Answered.replies`: a request and its answer unrolled.
* `serve_unrolled`: an unrolled request leaves the same engine and gets the same replies.
* **`service_unrolled`**: so does a run of requests.
-/

import Reputation.Proofs.Engine.Registry

namespace Reputation

namespace Engine

/-- The tier of an entity; without a record it is unrated. -/
def tierOf (engine : Engine) (entity : EntityId) : Tier :=
  (engine.record? entity).elim .unrated (·.trustTier)

/-- The entity that a call is on. -/
def Call.entity? : Call → Option EntityId
  | .ingest event => some event.entity
  | .revoke event => some event.entity
  | .respond event => some event.entity
  | .updateConfig _ => none

/-- The tier of the entity that a call is on. -/
def tierOn (engine : Engine) (call : Call) : Tier := call.entity?.elim .unrated engine.tierOf

/-- A call with its reply, and the tier of its entity before and after it. -/
structure Turn where
  reply : Reply
  before : Tier
  after : Tier

/-- What becomes of a call, as a turn. -/
def turn (engine : Engine) (hashing : Hashing) (call : Call) : Turn where
  reply := (engine.call hashing call).2.reply
  before := engine.tierOn call
  after := (engine.call hashing call).1.tierOn call

/-- The engine as a system whose history is made of turns, starting without records. -/
def watching (hashing : Hashing) (config : Config) : System Engine Call Turn where
  start := { config }
  step engine call := ((engine.call hashing call).1, engine.turn hashing call)

/-- The calls that a request stands for; a record that is put in stands for none. -/
def Request.calls : Request → List Call
  | .call single => [single]
  | .batch events => events.map .ingest
  | .importRecord _ => []

/-- Whether a request puts a record in. -/
def Request.isImport : Request → Bool
  | .importRecord _ => true
  | _ => false

/-- The replies in an answer, those of a batch in the order of its feedbacks. -/
def Answered.replies : Answered → List Reply
  | .called reply => [reply]
  | .batched events answers => List.zipWith .ingested events answers
  | .imported _ => []

variable {hashing : Hashing} {config : Config}

/-! ### Turns and entries -/

theorem finalFrom_watching (engine : Engine) (calls : List Call) :
    (watching hashing config).finalFrom engine calls =
      (system hashing config).finalFrom engine calls := by
  induction calls generalizing engine with
  | nil => rfl
  | cons call rest ih => exact ih _

theorem replies_watching (engine : Engine) (calls : List Call) :
    ((watching hashing config).historyFrom engine calls).map (·.reply) =
      ((system hashing config).historyFrom engine calls).map (·.reply) := by
  induction calls generalizing engine with
  | nil => rfl
  | cons call rest ih => exact congrArg _ (ih _)

/-! ### Batches -/

theorem finalFrom_ingests (engine : Engine) (events : List Feedback) :
    (watching hashing config).finalFrom engine (events.map .ingest) =
      (intake hashing).finalFrom engine events := by
  induction events generalizing engine with
  | nil => rfl
  | cons event rest ih => exact ih _

theorem replies_ingests (engine : Engine) (events : List Feedback) :
    ((watching hashing config).historyFrom engine (events.map .ingest)).map (·.reply) =
      List.zipWith .ingested events ((intake hashing).historyFrom engine events) := by
  induction events generalizing engine with
  | nil => rfl
  | cons event rest ih => exact congrArg _ (ih _)

/-! ### Requests -/

/-- **An unrolled request leaves the same engine and gets the same replies.** -/
theorem serve_unrolled (hashing : Hashing) (config : Config) (engine : Engine)
    {request : Request} (own : request.isImport = false) :
    (engine.serve hashing request).1 =
        (watching hashing config).finalFrom engine request.calls ∧
      (engine.serve hashing request).2.replies =
        ((watching hashing config).historyFrom engine request.calls).map (·.reply) := by
  cases request with
  | call call => exact ⟨rfl, rfl⟩
  | batch events =>
    have turns := ingestBatch_inTurn engine hashing events
    refine ⟨turns.engine.trans (finalFrom_ingests engine events).symm, ?_⟩
    show List.zipWith Reply.ingested events (engine.ingestBatch hashing events).answers = _
    rw [turns.answers]
    exact (replies_ingests engine events).symm
  | importRecord record => cases own

theorem service_unrolled_from (engine : Engine) {requests : List Request}
    (own : ∀ request ∈ requests, request.isImport = false) :
    (service hashing config).finalFrom engine requests =
        (watching hashing config).finalFrom engine (requests.flatMap Request.calls) ∧
      ((service hashing config).historyFrom engine requests).flatMap Answered.replies =
        ((watching hashing config).historyFrom engine
          (requests.flatMap Request.calls)).map (·.reply) := by
  induction requests generalizing engine with
  | nil => exact ⟨rfl, rfl⟩
  | cons request rest ih =>
    obtain ⟨here, further⟩ := List.forall_mem_cons.mp own
    obtain ⟨next, replies⟩ := serve_unrolled hashing config engine here
    obtain ⟨last, others⟩ := ih (engine.serve hashing request).1 further
    rw [List.flatMap_cons, System.finalFrom_append, System.historyFrom_append, List.map_append,
      ← next, ← replies, ← last, ← others]
    exact ⟨rfl, rfl⟩

/-- **A run of requests leaves the engine that its turns leave, and its answers are their
replies.** -/
theorem service_unrolled (hashing : Hashing) (config : Config) {requests : List Request}
    (own : ∀ request ∈ requests, request.isImport = false) :
    (service hashing config).final requests =
        (watching hashing config).final (requests.flatMap Request.calls) ∧
      ((service hashing config).history requests).flatMap Answered.replies =
        ((watching hashing config).history
          (requests.flatMap Request.calls)).map (·.reply) :=
  service_unrolled_from { config } own

end Engine

end Reputation
