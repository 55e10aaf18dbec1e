/-
**Seals and responses carry no influence.**

Take two runs of the engine that become the same once the responses are dropped and the seals are
left out. Then every feedback, revocation and new configuration of the one is answered as its
counterpart in the other, and at corresponding points the records are the same but for the heads of
their chains and their counts of responses. Wherever a response is put into a run and whatever is
sealed, it has no say in scores, tiers, times, fingerprints or refusals.

* `Engine.outlook`: what an engine shows of an entity, heads and responses aside.
* `Call.unsealed?`, `Reply.unsealed?`, `shown?`: calls, replies and stages of a run, seals and
  responses aside.
* `respond_leaves`, `outlook_respond`: all that a response changes.
* `outlook_call`: a call is seen alike without its seal.
* `seen_alike`: so is a whole run.
* **`unmoved_by_seals_and_responses`**: two runs.
-/

import Reputation.Proofs.Engine.Registry
import Reputation.Proofs.Record.Seals

namespace Reputation

namespace Engine

/-! ### What is seen of a run -/

/-- The configuration, and the record of an entity without its heads and its count of responses. -/
def outlook (engine : Engine) (entity : EntityId) : Config × Option Record :=
  (engine.config, (engine.record? entity).map (·.plain))

/-- A call without its seal, responses being dropped. -/
def Call.unsealed? : Call → Option Call
  | .ingest event => some (.ingest event.unsealed)
  | .revoke event => some (.revoke event.unsealed)
  | .respond _ => none
  | .updateConfig config => some (.updateConfig config)

/-- A reply to a call without its seal, responses being dropped. -/
def Reply.unsealed? : Reply → Option Reply
  | .ingested event answer => some (.ingested event.unsealed answer)
  | .revoked event answer => some (.revoked event.unsealed answer)
  | .responded _ _ => none
  | .configured config answer => some (.configured config answer)

/-- What a stage of a run shows, seals and responses aside: the reply, and the outlook on all
entities after it. -/
def shown? (stage : Stage Engine Entry) :
    Option (Reply × (EntityId → Config × Option Record)) :=
  stage.entry.reply.unsealed?.map fun reply => (reply, stage.after.outlook)

variable {engine bare : Engine} {hashing : Hashing} {config : Config} {entity : EntityId}

theorem config_eq_of_outlook (same : engine.outlook = bare.outlook) :
    engine.config = bare.config :=
  congrArg Prod.fst (congrFun same ⟨0⟩)

theorem plain_eq_of_outlook (same : engine.outlook = bare.outlook) (entity : EntityId) :
    (engine.record? entity).map (·.plain) = (bare.record? entity).map (·.plain) :=
  congrArg Prod.snd (congrFun same entity)

theorem outlook_setRecord_eq (same : engine.outlook = bare.outlook) {record other : Record}
    (records : record.plain = other.plain) :
    (engine.setRecord entity record).outlook = (bare.setRecord entity other).outlook := by
  funext asked
  show (engine.config, ((engine.setRecord entity record).record? asked).map (·.plain)) =
    (bare.config, ((bare.setRecord entity other).record? asked).map (·.plain))
  rw [record?_setRecord, record?_setRecord, config_eq_of_outlook same]
  split
  · rw [Option.map_some, Option.map_some, records]
  · rw [plain_eq_of_outlook same asked]

/-! ### One call -/

theorem outlook_ingest (same : engine.outlook = bare.outlook) (hashing : Hashing)
    (event : Feedback) :
    (engine.ingest hashing event).engine.outlook =
        (bare.ingest hashing event.unsealed).engine.outlook ∧
      (engine.ingest hashing event).answer = (bare.ingest hashing event.unsealed).answer := by
  have known : (engine.record? event.entity).map (·.plain) =
      (bare.record? event.unsealed.entity).map (·.plain) := plain_eq_of_outlook same event.entity
  have alike := Record.ingest_unsealed hashing engine.config known event
  simp only [ingest, Outcome.within, applyIngest_eq]
  rw [← config_eq_of_outlook same]
  generalize Record.ingest hashing engine.config (engine.record? event.entity) event = attempt,
    Record.ingest hashing engine.config (bare.record? event.unsealed.entity) event.unsealed = other
    at alike ⊢
  cases alike with
  | error failure => exact ⟨same, rfl⟩
  | ok shown =>
    obtain ⟨records, results⟩ := Prod.mk.inj shown
    exact ⟨outlook_setRecord_eq same records, congrArg Except.ok results⟩

theorem outlook_revoke (same : engine.outlook = bare.outlook) (hashing : Hashing)
    (event : Revocation) :
    (engine.revoke hashing event).engine.outlook =
        (bare.revoke hashing event.unsealed).engine.outlook ∧
      (engine.revoke hashing event).answer = (bare.revoke hashing event.unsealed).answer := by
  have known : (engine.record? event.entity).map (·.plain) =
      (bare.record? event.unsealed.entity).map (·.plain) := plain_eq_of_outlook same event.entity
  have alike := Record.revoke_unsealed hashing engine.config known event
  simp only [revoke, Outcome.within, applyRevoke]
  rw [← config_eq_of_outlook same]
  generalize Record.revoke hashing engine.config (engine.record? event.entity) event = attempt,
    Record.revoke hashing engine.config (bare.record? event.unsealed.entity) event.unsealed = other
    at alike ⊢
  cases alike with
  | error failure => exact ⟨same, rfl⟩
  | @ok one two shown =>
    obtain ⟨records, results⟩ := Prod.mk.inj shown
    refine ⟨?_, congrArg Except.ok results⟩
    show (one.record.elim engine _).outlook = (two.record.elim bare _).outlook
    generalize one.record = kept, two.record = keptToo at records
    cases kept with
    | none =>
      cases keptToo with
      | none => exact same
      | some => cases records
    | some record =>
      cases keptToo with
      | none => cases records
      | some other => exact outlook_setRecord_eq same (Option.some.inj records)

/-- **A response changes nothing but the count and the chain of responses of its entity's record.**
-/
theorem respond_leaves (engine : Engine) (hashing : Hashing) (event : Response)
    (entity : EntityId) :
    (engine.respond hashing event).engine.record? entity = engine.record? entity ∨
      ∃ record head, event.entity = entity ∧ engine.record? entity = some record ∧
        (engine.respond hashing event).engine.record? entity = some { record with
          responseCount := record.responseCount + 1
          heads := { record.heads with response := head } } := by
  have effect : Effect hashing engine.config entity _ _ _ := respond_effect event
  generalize engine.record? entity = before,
    (engine.respond hashing event).engine.record? entity = after,
    (engine.respond hashing event).answer = answer at effect
  cases effect with
  | kept => exact .inl rfl
  | @responded record _ about => exact .inr ⟨record, _, about, rfl, rfl⟩

theorem outlook_respond (engine : Engine) (hashing : Hashing) (event : Response) :
    (engine.respond hashing event).engine.outlook = engine.outlook := by
  funext entity
  rw [outlook, outlook, config_respond]
  rcases respond_leaves engine hashing event entity with same | ⟨record, head, -, known, after⟩
  · rw [same]
  · rw [known, after]
    rfl

theorem outlook_updateConfig (same : engine.outlook = bare.outlook) (config : Config) :
    (engine.updateConfig config).engine.outlook = (bare.updateConfig config).engine.outlook ∧
      (engine.updateConfig config).answer = (bare.updateConfig config).answer := by
  unfold updateConfig
  split
  · exact ⟨same, rfl⟩
  · refine ⟨funext fun entity => ?_, rfl⟩
    exact congrArg (Prod.mk config) (plain_eq_of_outlook same entity)

/-- **A call is seen alike without its seal, and a response is not seen at all.** -/
theorem outlook_call (same : engine.outlook = bare.outlook) (hashing : Hashing) (call : Call) :
    match call.unsealed? with
    | none => (engine.call hashing call).1.outlook = bare.outlook ∧
        (engine.call hashing call).2.reply.unsealed? = none
    | some unsealed =>
      (engine.call hashing call).1.outlook = (bare.call hashing unsealed).1.outlook ∧
        (engine.call hashing call).2.reply.unsealed? =
          (bare.call hashing unsealed).2.reply.unsealed? := by
  cases call with
  | ingest event =>
    obtain ⟨outlook, answer⟩ := outlook_ingest same hashing event
    exact ⟨outlook, congrArg (fun answer => some (Reply.ingested event.unsealed answer)) answer⟩
  | revoke event =>
    obtain ⟨outlook, answer⟩ := outlook_revoke same hashing event
    exact ⟨outlook, congrArg (fun answer => some (Reply.revoked event.unsealed answer)) answer⟩
  | respond event => exact ⟨(outlook_respond engine hashing event).trans same, rfl⟩
  | updateConfig config =>
    obtain ⟨outlook, answer⟩ := outlook_updateConfig same config
    exact ⟨outlook, congrArg (fun answer => some (Reply.configured config answer)) answer⟩

/-! ### Runs -/

/-- **A run is seen as the run without its seals and responses.** -/
theorem seen_alike (hashing : Hashing) (config : Config) (same : engine.outlook = bare.outlook)
    (calls : List Call) :
    let engines := (system hashing config).staged
    let unsealed := calls.filterMap Call.unsealed?
    (engines.historyFrom engine calls).filterMap shown? =
        (engines.historyFrom bare unsealed).filterMap shown? ∧
      (engines.finalFrom engine calls).outlook = (engines.finalFrom bare unsealed).outlook := by
  intro engines
  induction calls generalizing engine bare with
  | nil => exact ⟨rfl, same⟩
  | cons call rest ih =>
    have step := outlook_call same hashing call
    intro unsealed
    cases bareIs : call.unsealed? with
    | none =>
      rw [bareIs] at step
      obtain ⟨outlook, unseen⟩ := step
      obtain ⟨stages, final⟩ := ih outlook
      have dropped : unsealed = rest.filterMap Call.unsealed? :=
        List.filterMap_cons_none bareIs
      rw [dropped]
      refine ⟨Eq.trans (List.filterMap_cons_none ?_) stages, final⟩
      show Option.map _ (engine.call hashing call).2.reply.unsealed? = none
      rw [unseen, Option.map_none]
    | some bareCall =>
      rw [bareIs] at step
      obtain ⟨outlook, reply⟩ := step
      obtain ⟨stages, final⟩ := ih outlook
      have kept : unsealed = bareCall :: rest.filterMap Call.unsealed? :=
        List.filterMap_cons_some bareIs
      rw [kept]
      refine ⟨?_, final⟩
      have here : shown? (engines.step engine call).2 = shown? (engines.step bare bareCall).2 := by
        show Option.map (fun reply => (reply, (engine.call hashing call).1.outlook)) _ =
          Option.map (fun reply => (reply, (bare.call hashing bareCall).1.outlook)) _
        rw [outlook]
        exact congrArg _ reply
      rw [System.historyFrom, System.historyFrom, List.filterMap_cons, List.filterMap_cons, here]
      split
      · exact stages
      · exact congrArg _ stages

/-- **Seals and responses carry no influence.** Take two runs under one first configuration, within
bounds or not and under any hash function, that become the same calls once all responses are dropped
and all seals are left out. Then the other calls are answered alike, one by one, and after each of
them the configuration is the same and the record of every entity is the same but for its heads and
its count of responses; and so they are after the runs. A response, made to any engine, leaves the
configuration alone and of every record all but the count of responses and the head of their chain.
-/
theorem unmoved_by_seals_and_responses (hashing : Hashing) (config : Config)
    {calls others : List Call}
    (same : calls.filterMap Call.unsealed? = others.filterMap Call.unsealed?) :
    let engines := (system hashing config).staged
    (engines.history calls).filterMap shown? = (engines.history others).filterMap shown? ∧
      (engines.final calls).outlook = (engines.final others).outlook ∧
      ∀ (engine : Engine) (event : Response),
        (engine.respond hashing event).engine.config = engine.config ∧
        ∀ entity, (engine.respond hashing event).engine.record? entity = engine.record? entity ∨
          ∃ record head, event.entity = entity ∧ engine.record? entity = some record ∧
            (engine.respond hashing event).engine.record? entity = some { record with
              responseCount := record.responseCount + 1
              heads := { record.heads with response := head } } := by
  intro engines
  obtain ⟨stages, final⟩ :=
    seen_alike hashing config (rfl : ({ config } : Engine).outlook = _) calls
  obtain ⟨stagesToo, finalToo⟩ :=
    seen_alike hashing config (rfl : ({ config } : Engine).outlook = _) others
  rw [same] at stages final
  exact ⟨stages.trans stagesToo.symm, final.trans finalToo.symm,
    fun engine event => ⟨config_respond event, respond_leaves engine hashing event⟩⟩

/-- Two feedbacks and the revocation of one, all with a seal of the given byte, and responses
wherever they are put. -/
def stamped (byte : UInt8) (early late : List Call) : List Call :=
  .ingest ⟨⟨1⟩, ⟨.ofSeed 1⟩, 80, 1, 0, ⟨.fill byte⟩⟩ :: early ++
    [.ingest ⟨⟨1⟩, ⟨.ofSeed 2⟩, 90, 1, 20, ⟨.fill byte⟩⟩,
      .revoke ⟨⟨1⟩, ⟨.ofSeed 2⟩, 1, 30, ⟨.fill byte⟩⟩] ++ late

/-- A response on the first entity at the given time. -/
def answering (time : UInt64) : Call := .respond ⟨⟨1⟩, ⟨.ofSeed 1⟩, 1, time, ⟨.fill 1⟩⟩

/-- Two runs with other seals and responses at other places: the counts of responses differ, and
nothing that is seen. -/
theorem unmoved_by_seals_and_responses_stamped :
    let one := stamped 7 [answering 99, answering 0] []
    let two := stamped 9 [] [answering 30]
    let engines := (system summing lenient).staged
    one.filterMap Call.unsealed? = two.filterMap Call.unsealed? ∧
      (engines.history one).filterMap shown? = (engines.history two).filterMap shown? ∧
      (engines.final one).outlook = (engines.final two).outlook ∧
      ((engines.final one).record? ⟨1⟩).map (·.responseCount) = some 2 ∧
      ((engines.final two).record? ⟨1⟩).map (·.responseCount) = some 1 := by
  intro one two engines
  have same : one.filterMap Call.unsealed? = two.filterMap Call.unsealed? := rfl
  obtain ⟨stages, final, -⟩ := unmoved_by_seals_and_responses summing lenient same
  exact ⟨same, stages, final, by decide +kernel, by decide +kernel⟩

end Engine

end Reputation
