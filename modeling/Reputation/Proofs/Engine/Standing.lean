/-
**A tier is earned by the scores that go with it.**

The confirmed tier of a record stays from event to event, while quality, risk, confidence and
loyalty are worked out again at every accepted feedback and every revocation with impact. Still the
two never disagree: what the record shows meets what its tier asks for under the configuration by
which it was scored last.

* `scoringConfig? entity history`: the configuration by which the record of an entity was scored
  last.
* `scored_of_run`: what scoring establishes and responses leave alone holds of every record, with
  the configuration by which it was scored last.
* `Record.earned_rescore`: scoring a record leaves it with a tier that its scores earn.
* **`tier_earned`**: after every run under configurations within bounds, every record has earned its
  tier.
-/

import Reputation.Proofs.Engine.Run
import Reputation.Proofs.Tier.Ladder

namespace Reputation

/-- Whether the scores that a record shows meet what its tier asks for. -/
def Record.Earned (record : Record) (policy : TierPolicy) : Prop :=
  record.metrics.meets policy record.trustTier = true

/-- **Scoring a record leaves it with a tier that its scores earn.** -/
theorem Record.earned_rescore (record : Record) (epoch : UInt64) {config : Config}
    (ladder : config.tiers.Ladder) : (record.rescore epoch config).1.Earned config.tiers := by
  obtain ⟨tier, advance, scored⟩ := record.rescore_cases epoch config
  rw [scored]
  exact advance.meets_confirmed ladder

/-- A feedback is scored before its leaf is appended. -/
theorem Record.earned_takeIn (record : Record) (hashing : Hashing) {config : Config}
    (event : Feedback) (ladder : config.tiers.Ladder) :
    (record.takeIn hashing config event).record.Earned config.tiers := by
  rw [Record.record_takeIn]
  exact Record.earned_rescore (record.noted hashing config event) _ ladder

/-- A revocation is scored before its leaf is appended. -/
theorem Record.earned_settled (record : Record) (hashing : Hashing) {config : Config}
    (event : Revocation) (score : UInt8) (ladder : config.tiers.Ladder) :
    (record.settled hashing config event score).1.Earned config.tiers := by
  rw [Record.record_settled]
  exact Record.earned_rescore (record.corrected config score) _ ladder

namespace Engine

/-- Whether the record of an entity is scored at a reply: a feedback on it was accepted, or a
revocation had impact. -/
def Reply.scores (entity : EntityId) : Reply → Bool
  | .ingested event (.ok _) => event.entity = entity
  | .revoked event (.ok result) => result.hadImpact && event.entity = entity
  | _ => false

/-- The configuration by which the record of an entity was scored last. -/
def scoringConfig? (entity : EntityId) (history : List Entry) : Option Config :=
  (history.filter (·.reply.scores entity)).getLast?.map (·.config)

variable {hashing : Hashing} {config : Config} {entity : EntityId} {history : List Entry}
  {reply : Reply}

theorem scoringConfig?_concat_of_scores (scores : reply.scores entity = true) :
    scoringConfig? entity (history ++ [⟨config, reply⟩]) = some config := by
  simp [scoringConfig?, scores]

theorem scoringConfig?_concat_of_not (other : reply.scores entity = false) :
    scoringConfig? entity (history ++ [⟨config, reply⟩]) = scoringConfig? entity history := by
  simp [scoringConfig?, other]

theorem scores_of_still (still : reply.changes entity = false) : reply.scores entity = false := by
  rcases reply with ⟨event, _ | result⟩ | ⟨event, _ | result⟩ | ⟨event, answer⟩ | ⟨config, answer⟩
  all_goals first | exact still | rfl

/-- Whether something holds of a record, if there is one, with the configuration within bounds by
which it was scored last. -/
def Scored (Holds : Config → Record → Prop) (entity : EntityId) (history : List Entry)
    (current : Option Record) : Prop :=
  ∀ record, current = some record → ∃ used, scoringConfig? entity history = some used ∧
    used.check = .ok () ∧ Holds used record

/-- What scoring a record establishes under every configuration within bounds, and what a response
leaves alone. -/
structure SetByScoring (hashing : Hashing) (Holds : Config → Record → Prop) : Prop where
  takenIn (config : Config) (record : Record) (event : Feedback) : config.check = .ok () →
    Holds config (record.takeIn hashing config event).record
  settled (config : Config) (record : Record) (event : Revocation) (score : UInt8) :
    config.check = .ok () → Holds config (record.settled hashing config event score).1
  answered (config : Config) (record : Record) (event : Response) : Holds config record →
    Holds config (record.answered hashing event).record

/-- **Every effect leaves a record as scoring under the configuration in force made it.** -/
theorem Scored.step {Holds : Config → Record → Prop} (set : SetByScoring hashing Holds)
    {before after : Option Record} (scored : Scored Holds entity history before)
    (within : config.check = .ok ()) (effect : Effect hashing config entity before reply after) :
    Scored Holds entity (history ++ [⟨config, reply⟩]) after := by
  intro record known
  cases effect with
  | kept still =>
    rw [scoringConfig?_concat_of_not (scores_of_still still)]
    exact scored record known
  | ingested about checked entered room =>
    cases known
    exact ⟨config, scoringConfig?_concat_of_scores (decide_eq_true about), within,
      set.takenIn _ _ _ within⟩
  | revoked about checked timely found room settles =>
    cases known
    subst settles
    exact ⟨config, scoringConfig?_concat_of_scores (decide_eq_true about), within,
      set.settled _ _ _ _ within⟩
  | responded about checked room =>
    cases known
    obtain ⟨used, last, bounded, holds⟩ := scored _ rfl
    rw [scoringConfig?_concat_of_not rfl]
    exact ⟨used, last, bounded, set.answered _ _ _ holds⟩

/-- **What scoring establishes holds of every record after every run.** -/
theorem scored_of_run {Holds : Config → Record → Prop} (set : SetByScoring hashing Holds)
    (within : config.check = .ok ()) (calls : List Call) (entity : EntityId) :
    Scored Holds entity ((system hashing config).history calls)
      (((system hashing config).final calls).record? entity) :=
  record_invariant (fun config => config.check = .ok ()) (Scored Holds entity) within (fun _ => id)
    (fun _ absent => by cases absent)
    (fun _ _ _ _ _ scored within effect => scored.step set within effect) calls

/-- Scoring leaves every record with a tier that it has earned. -/
theorem earned_setByScoring (hashing : Hashing) :
    SetByScoring hashing fun config record => record.Earned config.tiers where
  takenIn _ record event within := record.earned_takeIn hashing event
    (TierPolicy.ladder_of_check (Config.check_eq_ok.mp within).2.2.2.2)
  settled _ record event score within := record.earned_settled hashing event score
    (TierPolicy.ladder_of_check (Config.check_eq_ok.mp within).2.2.2.2)
  answered _ _ _ := id

/-- **No tier beyond the scores.** Take any run of an engine whose first configuration is within
bounds. Every record was scored last under some configuration within bounds, and what the record
shows of quality, risk and confidence reaches the threshold of its tier in that configuration, and
its loyalty that of platinum if it is platinum. -/
theorem tier_earned (hashing : Hashing) {config : Config} (within : config.check = .ok ())
    (calls : List Call) {entity : EntityId} {record : Record}
    (known : ((system hashing config).final calls).record? entity = some record) :
    ∃ used, scoringConfig? entity ((system hashing config).history calls) = some used ∧
      used.check = .ok () ∧
      ∀ threshold, used.tiers.threshold? record.trustTier = some threshold →
        threshold.minQuality ≤ record.quality ∧ record.risk ≤ threshold.maxRisk ∧
        threshold.minConfidence ≤ record.confidence ∧
        (record.trustTier = .platinum →
          used.tiers.platinumLoyalty ≤ record.statistics.loyalty) := by
  obtain ⟨used, scored, bounded, earned⟩ :=
    scored_of_run (earned_setByScoring hashing) within calls entity record known
  refine ⟨used, scored, bounded, fun threshold asked => ?_⟩
  obtain ⟨⟨quality, risk, confidence⟩, loyal⟩ := (TierMetrics.meets_iff asked).mp earned
  exact ⟨quality, risk, confidence, loyal⟩

/-- A hash function that adds the bytes up. -/
def summing : Hashing where
  digest bytes := .ofSeed (bytes.foldl (fun sum byte => sum + byte.toUInt64) 0)
  derive _ bytes := .ofSeed (bytes.foldl (fun sum byte => sum + byte.toUInt64) 0)

/-- A configuration whose lower tiers are easy to earn. -/
def lenient : Config where
  tiers :=
    { epochLength := 10
      vestingEpochs := 1
      bronze := ⟨0, 100, 0⟩
      silver := ⟨10, 99, 1⟩
      gold := ⟨20, 98, 2⟩
      platinum := ⟨9000, 97, 99⟩ }

/-- A feedback on the first entity by the rater of the given seed. -/
def rating (seed : UInt64) (score : UInt8) (time : UInt64) : Call :=
  .ingest ⟨⟨1⟩, ⟨.ofSeed seed⟩, score, 1, time, ⟨.fill 0⟩⟩

/-- Two feedbacks, one that is refused, a revocation with impact and a new configuration. -/
def rated : List Call :=
  [rating 1 80 0, rating 2 90 20, rating 3 101 20,
    .revoke ⟨⟨1⟩, ⟨.ofSeed 2⟩, 1, 30, ⟨.fill 0⟩⟩, .updateConfig {}]

/-- The first entity is gold by the configuration under which it was scored, not by the new one. -/
theorem gold_earned_lenient :
    lenient.check = .ok () ∧
    ∃ record, ((system summing lenient).final rated).record? ⟨1⟩ = some record ∧
      record.trustTier = .gold ∧
      ∃ used, scoringConfig? ⟨1⟩ ((system summing lenient).history rated) = some used ∧
        used.check = .ok () ∧
        ∀ threshold, used.tiers.threshold? record.trustTier = some threshold →
          threshold.minQuality ≤ record.quality ∧ record.risk ≤ threshold.maxRisk ∧
          threshold.minConfidence ≤ record.confidence ∧
          (record.trustTier = .platinum →
            used.tiers.platinumLoyalty ≤ record.statistics.loyalty) := by
  have within : lenient.check = .ok () := by decide
  have gold : (((system summing lenient).final rated).record? ⟨1⟩).map (·.trustTier) =
      some .gold := by decide +kernel
  obtain ⟨record, known, tier⟩ := Option.map_eq_some_iff.mp gold
  exact ⟨within, record, known, tier, tier_earned summing within rated known⟩

end Engine

end Reputation
