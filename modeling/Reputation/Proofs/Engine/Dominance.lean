/-
**A better rating never lowers quality.**

Two runs of the engine that differ in nothing but the scores of some feedbacks go alike. No score
has a say in what is accepted, where it is remembered, who counts as new or how sure the engine is;
and where the second run never has the lower score, none of its averages, extremes and qualities is
lower either.

* `Call.Raised`: the same call, but for a score that is not lower.
* `Engine.Below`, `Reply.Below`: the order of the engines and answers of such runs.
* `Below.call`: raised calls keep it.
* **`better_ratings`**: two whole runs, call by call.
-/

import Reputation.Proofs.Engine.Registry
import Reputation.Proofs.Record.Dominance

namespace Reputation

namespace Engine

/-- The calls are the same but for the score of a feedback, which is not lower in the second and
within range. -/
inductive Call.Raised : Call → Call → Prop
  | same (call : Call) : Raised call call
  | ingest {event : Feedback} {raised : UInt8} (le : event.score ≤ raised)
      (valid : raised.toNat ≤ scoreMax) :
      Raised (.ingest event) (.ingest { event with score := raised })

/-- Both calls are refused with the same error, or both are accepted and the answers are the same
but for what is made of scores, quality not being lower in the second. -/
inductive Reply.Below : Reply → Reply → Prop
  | ingested {event raised : Feedback} {answer other : Except Error UpdateResult}
      (alike : Alike UpdateResult.Below answer other) :
      Below (.ingested event answer) (.ingested raised other)
  | revoked {event : Revocation} {answer other : Except Error RevokeResult}
      (alike : Alike RevokeResult.Below answer other) :
      Below (.revoked event answer) (.revoked event other)
  | responded (event : Response) (answer : Except Error ResponseResult) :
      Below (.responded event answer) (.responded event answer)
  | configured (config : Config) (answer : Except Error Unit) :
      Below (.configured config answer) (.configured config answer)

/-- The engines hold the same but for what is made of scores, which is not lower in the second. -/
structure Below (first second : Engine) : Prop where
  config : first.config = second.config
  slots : ∀ entity : EntityId,
    Option.Rel (Option.Rel Record.Below) first.slots[entity]? second.slots[entity]?

variable {first second : Engine} {hashing : Hashing} {entity : EntityId}

theorem Below.record? (below : first.Below second) (entity : EntityId) :
    Option.Rel Record.Below (first.record? entity) (second.record? entity) := by
  have slots := below.slots entity
  unfold Engine.record?
  generalize first.slots[entity]? = slot, second.slots[entity]? = slotToo at slots
  cases slots with
  | none => exact .none
  | some below => exact below

theorem Below.setRecord (below : first.Below second) (entity : EntityId) {record better : Record}
    (records : record.Below better) :
    (first.setRecord entity record).Below (second.setRecord entity better) where
  config := below.config
  slots other := by
    simp only [Engine.setRecord, Std.ExtTreeMap.getElem?_insert]
    split
    · exact .some (.some records)
    · exact below.slots other

theorem Below.withMetrics (below : first.Below second) (metrics other : Metrics) :
    { first with metrics }.Below { second with metrics := other } :=
  ⟨below.config, below.slots⟩

/-! ### One call -/

theorem Below.ingest (below : first.Below second) (hashing : Hashing) {event : Feedback}
    {raised : UInt8} (le : event.score ≤ raised)
    (checks : { event with score := raised }.check = event.check) :
    (first.ingest hashing event).engine.Below
        (second.ingest hashing { event with score := raised }).engine ∧
      Alike UpdateResult.Below (first.ingest hashing event).answer
        (second.ingest hashing { event with score := raised }).answer := by
  have alike := Record.Below.ingest (below.record? event.entity) hashing first.config le checks
  simp only [Engine.ingest, Outcome.within, applyIngest_eq]
  rw [← below.config]
  generalize Record.ingest hashing first.config (first.record? event.entity) event = attempt
    at alike ⊢
  generalize Record.ingest hashing first.config (second.record? event.entity)
    { event with score := raised } = other at alike ⊢
  cases alike with
  | error failure => exact ⟨below.withMetrics _ _, .error failure⟩
  | ok related =>
    exact ⟨(below.setRecord event.entity related.1).withMetrics _ _, .ok related.2⟩

theorem Below.revoke (below : first.Below second) (hashing : Hashing) (event : Revocation) :
    (first.revoke hashing event).engine.Below (second.revoke hashing event).engine ∧
      Alike RevokeResult.Below (first.revoke hashing event).answer
        (second.revoke hashing event).answer := by
  have alike := Record.Below.revoke (below.record? event.entity) hashing first.config event
  simp only [Engine.revoke, Outcome.within, applyRevoke]
  rw [← below.config]
  generalize Record.revoke hashing first.config (first.record? event.entity) event = attempt
    at alike ⊢
  generalize Record.revoke hashing first.config (second.record? event.entity) event = other
    at alike ⊢
  cases alike with
  | error failure => exact ⟨below.withMetrics _ _, .error failure⟩
  | @ok one two related =>
    refine ⟨Below.withMetrics ?_ _ _, .ok related.2⟩
    have records := related.1
    generalize one.record = kept, two.record = keptToo at records
    cases records with
    | none => exact below
    | some records => exact below.setRecord event.entity records

theorem Below.respond (below : first.Below second) (hashing : Hashing) (event : Response) :
    (first.respond hashing event).engine.Below (second.respond hashing event).engine ∧
      (first.respond hashing event).answer = (second.respond hashing event).answer := by
  simp only [Engine.respond, Outcome.within, applyRespond]
  have slots := below.slots event.entity
  generalize first.slots[event.entity]? = slot, second.slots[event.entity]? = slotToo at slots
  cases slots with
  | none => exact ⟨below, rfl⟩
  | @some current other records =>
    have alike := Record.Below.respond records hashing event
    dsimp only
    generalize Record.respond hashing current event = attempt, Record.respond hashing other event =
      attemptToo at alike
    cases alike with
    | error failure => exact ⟨below.withMetrics _ _, rfl⟩
    | ok related =>
      exact ⟨(below.setRecord event.entity related.1).withMetrics _ _,
        congrArg Except.ok related.2⟩

theorem Below.updateConfig (below : first.Below second) (config : Config) :
    (first.updateConfig config).engine.Below (second.updateConfig config).engine ∧
      (first.updateConfig config).answer = (second.updateConfig config).answer := by
  unfold Engine.updateConfig
  split
  · exact ⟨below, rfl⟩
  · exact ⟨⟨rfl, below.slots⟩, rfl⟩

theorem check_of_raised {event : Feedback} {raised : UInt8} (le : event.score ≤ raised)
    (valid : raised.toNat ≤ scoreMax) : { event with score := raised }.check = event.check := by
  rw [UInt8.le_iff_toNat_le] at le
  unfold Feedback.check
  rw [if_neg (Nat.not_lt.mpr valid), if_neg (Nat.not_lt.mpr (Nat.le_trans le valid))]

/-- **Raised calls keep the engines in order and are answered alike.** -/
theorem Below.call (below : first.Below second) (hashing : Hashing) {call other : Call}
    (raised : call.Raised other) :
    (first.call hashing call).1.Below (second.call hashing other).1 ∧
      (first.call hashing call).2.reply.Below (second.call hashing other).2.reply := by
  cases raised with
  | @ingest event raised le valid =>
    obtain ⟨engines, answers⟩ := below.ingest hashing le (check_of_raised le valid)
    exact ⟨engines, .ingested answers⟩
  | same =>
    cases call with
    | ingest event =>
      obtain ⟨engines, answers⟩ := below.ingest hashing (UInt8.le_refl event.score) rfl
      exact ⟨engines, .ingested answers⟩
    | revoke event =>
      obtain ⟨engines, answers⟩ := below.revoke hashing event
      exact ⟨engines, .revoked answers⟩
    | respond event =>
      obtain ⟨engines, answers⟩ := below.respond hashing event
      refine ⟨engines, ?_⟩
      show Reply.Below (.responded event _) (.responded event _)
      rw [answers]
      exact .responded event _
    | updateConfig config =>
      obtain ⟨engines, answers⟩ := below.updateConfig config
      refine ⟨engines, ?_⟩
      show Reply.Below (.configured config _) (.configured config _)
      rw [answers]
      exact .configured config _

/-! ### Runs -/

theorem Below.run (below : first.Below second) (hashing : Hashing) (config : Config)
    {calls others : List Call} (raised : List.Forall₂ Call.Raised calls others) :
    ((system hashing config).finalFrom first calls).Below
        ((system hashing config).finalFrom second others) ∧
      List.Forall₂ (fun entry other => entry.reply.Below other.reply)
        ((system hashing config).historyFrom first calls)
        ((system hashing config).historyFrom second others) := by
  induction raised generalizing first second with
  | nil => exact ⟨below, .nil⟩
  | cons head _ ih =>
    obtain ⟨engines, reply⟩ := below.call hashing head
    obtain ⟨last, replies⟩ := ih engines
    exact ⟨last, .cons reply replies⟩

/-- What a record shows of its scores is never lower in the other one, and confidence and diversity
are the same. -/
structure OutrankedBy (record better : Record) : Prop where
  fast : record.statistics.fast ≤ better.statistics.fast
  slow : record.statistics.slow ≤ better.statistics.slow
  peak : record.statistics.peak ≤ better.statistics.peak
  minScore : record.minScore ≤ better.minScore
  maxScore : record.maxScore ≤ better.maxScore
  quality : record.quality ≤ better.quality
  confidence : record.confidence = better.confidence
  diversity : record.diversity = better.diversity

theorem outrankedBy_of_below {current other : Option Record}
    (records : Option.Rel Record.Below current other) :
    Option.Rel OutrankedBy current other := by
  cases records with
  | none => exact .none
  | some below =>
    exact .some ⟨below.statistics.fast, below.statistics.slow, below.statistics.peak,
      below.minScore, below.maxScore, below.quality, below.confidence, below.diversity⟩

/-- **A better rating never lowers quality.** Take two runs from engines without records under the
same configuration, call by call the same but for the scores of some feedbacks, which are in range
and never lower in the second run. Corresponding calls are refused with the same error or accepted
alike: placements, new raters, outcomes of revocations, confidence and diversity are the same. And
after any number of calls both runs hold records of the same entities, with the same confidence and
diversity, while averages, peak, lowest and highest score and quality are never lower in the
second. -/
theorem better_ratings (hashing : Hashing) (config : Config) {calls others : List Call}
    (raised : List.Forall₂ Call.Raised calls others) :
    List.Forall₂ (fun entry other => entry.reply.Below other.reply)
        ((system hashing config).history calls) ((system hashing config).history others) ∧
      ∀ (count : Nat) (entity : EntityId), Option.Rel OutrankedBy
        (((system hashing config).final (calls.take count)).record? entity)
        (((system hashing config).final (others.take count)).record? entity) := by
  have start : Below { config } { config } := ⟨rfl, fun entity => by simp⟩
  refine ⟨(start.run hashing config raised).2, fun count entity => ?_⟩
  have last := (start.run hashing config (List.forall₂_take count raised)).1
  exact outrankedBy_of_below (last.record? entity)

/-- The same calls as `rated`, the first of them with a higher score. -/
def ratedHigher : List Call :=
  [rating 1 95 0, rating 2 90 20, rating 3 101 20,
    .revoke ⟨⟨1⟩, ⟨.ofSeed 2⟩, 1, 30, ⟨.fill 0⟩⟩, .updateConfig {}]

/-- One score is raised, one feedback is refused in both runs, one is revoked in both. -/
theorem better_ratings_ratedHigher :
    List.Forall₂ Call.Raised rated ratedHigher ∧
      ∃ record better, ((system summing lenient).final rated).record? ⟨1⟩ = some record ∧
        ((system summing lenient).final ratedHigher).record? ⟨1⟩ = some better ∧
        OutrankedBy record better ∧ record.quality ≠ better.quality := by
  have raised : List.Forall₂ Call.Raised rated ratedHigher :=
    .cons (.ingest (by decide) (by decide)) <| .cons (.same _) <| .cons (.same _) <|
      .cons (.same _) <| .cons (.same _) .nil
  have ranks := (better_ratings summing lenient raised).2 5 ⟨1⟩
  have differ : (((system summing lenient).final rated).record? ⟨1⟩).map (·.quality) ≠
      (((system summing lenient).final ratedHigher).record? ⟨1⟩).map (·.quality) := by
    decide +kernel
  refine ⟨raised, ?_⟩
  change Option.Rel OutrankedBy (((system summing lenient).final rated).record? ⟨1⟩)
    (((system summing lenient).final ratedHigher).record? ⟨1⟩) at ranks
  generalize ((system summing lenient).final rated).record? ⟨1⟩ = current at ranks differ ⊢
  generalize ((system summing lenient).final ratedHigher).record? ⟨1⟩ = other at ranks differ ⊢
  cases ranks with
  | none => exact absurd rfl differ
  | some outranked =>
    exact ⟨_, _, rfl, rfl, outranked, fun same => differ (congrArg some same)⟩

end Engine

end Reputation
