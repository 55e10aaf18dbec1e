/-
**Runs of the engine.**

A run puts one call after the other to an engine without records: feedbacks, revocations, responses
and new configurations. Its history keeps every call with its answer and the configuration that was
in force.

* `Effect` lists what a call can do to the record of an entity: it leaves the record as it is, or it
  is an accepted event on the entity, and then the record changes as the event says.
* `call_effect`: every call has one of these effects on every entity.
* `record_invariant`: what holds without a record and is kept by every effect holds after every run.
* `KeptByEvents`, `holds_of_run`: what holds of an empty record and is kept by every event on a
  record holds of every record after every run.
-/

import Reputation.Engine.Basic
import Reputation.Proofs.Record.Update
import Reputation.Proofs.Run

namespace Reputation

namespace Engine

/-- A call of the engine. -/
inductive Call where
  | ingest (event : Feedback)
  | revoke (event : Revocation)
  | respond (event : Response)
  | updateConfig (config : Config)

/-- A call with its answer. -/
inductive Reply where
  | ingested (event : Feedback) (answer : Except Error UpdateResult)
  | revoked (event : Revocation) (answer : Except Error RevokeResult)
  | responded (event : Response) (answer : Except Error ResponseResult)
  | configured (config : Config) (answer : Except Error Unit)

/-- What the history keeps of a call. -/
structure Entry where
  /-- The configuration that was in force. -/
  config : Config
  reply : Reply

/-- The engine after a call, and what the history keeps of it. -/
def call (engine : Engine) (hashing : Hashing) : Call → Engine × Entry
  | .ingest event =>
    let outcome := engine.ingest hashing event
    (outcome.engine, ⟨engine.config, .ingested event outcome.answer⟩)
  | .revoke event =>
    let outcome := engine.revoke hashing event
    (outcome.engine, ⟨engine.config, .revoked event outcome.answer⟩)
  | .respond event =>
    let outcome := engine.respond hashing event
    (outcome.engine, ⟨engine.config, .responded event outcome.answer⟩)
  | .updateConfig config =>
    let outcome := engine.updateConfig config
    (outcome.engine, ⟨engine.config, .configured config outcome.answer⟩)

/-- The engine as a system, starting without records. -/
def system (hashing : Hashing) (config : Config) : System Engine Call Entry where
  start := { config }
  step engine := engine.call hashing

/-- Whether an entity is changed by the event of a reply: the event was accepted, and if it is a
revocation it had impact. -/
def Reply.changes (entity : EntityId) : Reply → Bool
  | .ingested event (.ok _) => event.entity = entity
  | .revoked event (.ok result) => result.hadImpact && event.entity = entity
  | .responded event (.ok _) => event.entity = entity
  | _ => false

/-- What a call can do to the record of an entity. -/
inductive Effect (hashing : Hashing) (config : Config) (entity : EntityId) :
    Option Record → Reply → Option Record → Prop
  /-- The call is on another entity, is refused, or has no impact. -/
  | kept {current : Option Record} {reply : Reply} (still : reply.changes entity = false) :
      Effect hashing config entity current reply current
  /-- A feedback is taken in. -/
  | ingested {current : Option Record} {record : Record} {event : Feedback}
      (about : event.entity = entity) (checked : event.check = .ok ())
      (entered : Record.opened hashing current event = .ok record)
      (room : record.RoomFor (config.tiers.epochOf event.time)) :
      Effect hashing config entity current
        (.ingested event (.ok (record.takeIn hashing config event).result))
        (some (record.takeIn hashing config event).record)
  /-- A remembered feedback is revoked. -/
  | revoked {record : Record} {recency : Recency} {event : Revocation} {score : UInt8}
      {location : Location} {after : Record × Transition} (about : event.entity = entity)
      (checked : event.check = .ok ()) (timely : record.lastSeen ≤ event.time)
      (found : record.lookUp hashing event = (recency, .revoked score location))
      (room : Record.HasRoom record.revokedCount)
      (settles : { record with recency }.settled hashing config event score = after) :
      Effect hashing config entity (some record)
        (.revoked event (.ok (Record.struckBy after event score).result)) (some after.1)
  /-- A response is kept. -/
  | responded {record : Record} {event : Response} (about : event.entity = entity)
      (checked : event.check = .ok ()) (room : Record.HasRoom record.responseCount) :
      Effect hashing config entity (some record)
        (.responded event (.ok (record.answered hashing event).result))
        (some (record.answered hashing event).record)

/-! ### Looking up records -/

variable {engine : Engine} {hashing : Hashing} {config : Config} {entity other : EntityId}

theorem record?_setRecord (record : Record) :
    (engine.setRecord entity record).record? other =
      if entity = other then some record else engine.record? other := by
  simp only [record?, setRecord, Std.ExtTreeMap.getElem?_insert, Std.LawfulEqCmp.compare_eq_iff_eq]
  split <;> rfl

theorem record?_openSlot : (engine.openSlot entity).record? other = engine.record? other := by
  simp only [record?, openSlot, Std.ExtTreeMap.getElem?_insertIfNew,
    Std.LawfulEqCmp.compare_eq_iff_eq]
  split
  · rename_i fresh
    obtain ⟨rfl, absent⟩ := fresh
    rw [Std.ExtTreeMap.getElem?_eq_none absent]
    rfl
  · rfl

theorem record?_reject {α : Type} (operation : Operation) (error : Error) :
    (engine.reject entity operation error : Outcome α).engine.record? other =
      engine.record? other := rfl

theorem record?_keepIngested (event : Feedback) (ingested : Ingested) :
    (engine.keepIngested event ingested).engine.record? other =
      if event.entity = other then some ingested.record else engine.record? other :=
  record?_setRecord _

theorem record?_keepRevoked_of_none (event : Revocation) {revoked : Revoked}
    (missed : revoked.record = none) :
    (engine.keepRevoked event revoked).engine.record? other = engine.record? other := by
  rw [keepRevoked, missed]
  rfl

theorem record?_keepRevoked_of_some (event : Revocation) {revoked : Revoked} {record : Record}
    (struck : revoked.record = some record) :
    (engine.keepRevoked event revoked).engine.record? other =
      if event.entity = other then some record else engine.record? other := by
  rw [keepRevoked, struck]
  exact record?_setRecord record

theorem record?_keepResponded (event : Response) (responded : Responded) :
    (engine.keepResponded event responded).engine.record? other =
      if event.entity = other then some responded.record else engine.record? other :=
  record?_setRecord _

/-! ### One call -/

theorem ingest_effect (event : Feedback) :
    Effect hashing engine.config entity (engine.record? entity)
      (.ingested event (engine.ingest hashing event).answer)
      ((engine.ingest hashing event).engine.record? entity) := by
  simp only [ingest, Outcome.within, applyIngest]
  split
  · exact .kept rfl
  · rename_i checked
    rw [record?_openSlot]
    split
    · rw [record?_reject, record?_openSlot]
      exact .kept rfl
    · rename_i ingested accepted
      obtain ⟨record, -, entered, room, rfl⟩ := Record.ingest_eq_ok.mp accepted
      rw [record?_keepIngested, record?_openSlot]
      split
      · rename_i about
        subst about
        exact .ingested rfl checked entered room
      · rename_i elsewhere
        exact .kept (decide_eq_false elsewhere)

theorem revoke_effect (event : Revocation) :
    Effect hashing engine.config entity (engine.record? entity)
      (.revoked event (engine.revoke hashing event).answer)
      ((engine.revoke hashing event).engine.record? entity) := by
  simp only [revoke, Outcome.within, applyRevoke]
  split
  · exact .kept rfl
  · rename_i revoked carried
    obtain ⟨checked, outcome⟩ := Record.revoke_cases carried
    show Effect hashing engine.config entity _ (.revoked event (.ok revoked.result)) _
    generalize known : engine.record? event.entity = current at outcome
    cases outcome with
    | unknown =>
      rw [record?_keepRevoked_of_none event rfl]
      exact .kept rfl
    | missed =>
      rw [record?_keepRevoked_of_none event rfl]
      exact .kept rfl
    | repeated =>
      rw [record?_keepRevoked_of_none event rfl]
      exact .kept rfl
    | struck timely found room =>
      rw [record?_keepRevoked_of_some event rfl]
      split
      · rename_i about
        rw [← about, known]
        exact .revoked rfl checked timely found room rfl
      · rename_i elsewhere
        exact .kept (decide_eq_false elsewhere)

theorem respond_effect (event : Response) :
    Effect hashing engine.config entity (engine.record? entity)
      (.responded event (engine.respond hashing event).answer)
      ((engine.respond hashing event).engine.record? entity) := by
  simp only [respond, Outcome.within, applyRespond]
  split
  · exact .kept rfl
  · rename_i current slot
    split
    · exact .kept rfl
    · rename_i responded accepted
      obtain ⟨record, checked, rfl, room, rfl⟩ := Record.respond_eq_ok.mp accepted
      have known : engine.record? event.entity = some record := by rw [record?, slot]; rfl
      rw [record?_keepResponded]
      split
      · rename_i about
        rw [← about, known]
        exact .responded rfl checked room
      · rename_i elsewhere
        exact .kept (decide_eq_false elsewhere)

/-- **Every call has one of the effects on every entity.** -/
theorem call_effect (call : Call) :
    Effect hashing engine.config entity (engine.record? entity)
      (engine.call hashing call).2.reply ((engine.call hashing call).1.record? entity) := by
  cases call with
  | ingest event => exact ingest_effect event
  | revoke event => exact revoke_effect event
  | respond event => exact respond_effect event
  | updateConfig config =>
    have same : (engine.updateConfig config).engine.record? entity = engine.record? entity := by
      unfold updateConfig
      split <;> rfl
    show Effect hashing engine.config entity _ (.configured config _)
      ((engine.updateConfig config).engine.record? entity)
    rw [same]
    exact .kept rfl

/-! ### Runs -/

theorem entry_call (call : Call) :
    (engine.call hashing call).2 = ⟨engine.config, (engine.call hashing call).2.reply⟩ := by
  cases call <;> rfl

theorem config_ingest (event : Feedback) :
    (engine.ingest hashing event).engine.config = engine.config := by
  show (engine.applyIngest hashing event).engine.config = engine.config
  simp only [applyIngest]
  split
  · rfl
  · split <;> rfl

theorem config_revoke (event : Revocation) :
    (engine.revoke hashing event).engine.config = engine.config := by
  show (engine.applyRevoke hashing event).engine.config = engine.config
  unfold applyRevoke
  split
  · rfl
  · rename_i revoked _
    unfold keepRevoked
    cases revoked.record <;> rfl

theorem config_respond (event : Response) :
    (engine.respond hashing event).engine.config = engine.config := by
  show (engine.applyRespond hashing event).engine.config = engine.config
  unfold applyRespond
  split
  · rfl
  · split <;> rfl

/-- The configuration in force after a call is the one before it or is within bounds. -/
theorem config_call (call : Call) :
    (engine.call hashing call).1.config = engine.config ∨
      (engine.call hashing call).1.config.check = .ok () := by
  cases call with
  | ingest event => exact .inl (config_ingest event)
  | revoke event => exact .inl (config_revoke event)
  | respond event => exact .inl (config_respond event)
  | updateConfig config =>
    show (engine.updateConfig config).engine.config = _ ∨
      (engine.updateConfig config).engine.config.check = _
    unfold updateConfig
    split
    · exact .inl rfl
    · rename_i within
      exact .inr within

/-- **What every effect keeps holds after every run.** The configurations in force are all of a kind
if the first one is and every one within bounds is. -/
theorem record_invariant (Kind : Config → Prop) (Holds : List Entry → Option Record → Prop)
    (first : Kind config) (updated : ∀ config : Config, config.check = .ok () → Kind config)
    (opening : Holds [] none)
    (kept : ∀ history config reply before after, Holds history before → Kind config →
      Effect hashing config entity before reply after → Holds (history ++ [⟨config, reply⟩]) after)
    (calls : List Call) :
    Holds ((system hashing config).history calls)
      (((system hashing config).final calls).record? entity) := by
  have both := (system hashing config).invariant
    (fun history engine => Kind engine.config ∧ Holds history (engine.record? entity))
    ⟨first, opening⟩ ?_ calls
  · exact both.2
  · rintro history engine call ⟨kind, holds⟩
    show Kind (engine.call hashing call).1.config ∧
      Holds (history ++ [(engine.call hashing call).2])
      ((engine.call hashing call).1.record? entity)
    constructor
    · rcases config_call call with same | within
      · rw [same]
        exact kind
      · exact updated _ within
    · rw [entry_call]
      exact kept _ _ _ _ _ holds kind (call_effect call)

/-! ### What holds of every record -/

/-- What holds of an empty record, and is kept by every event that changes a record under a
configuration. -/
structure KeptByEvents (hashing : Hashing) (config : Config) (Holds : Record → Prop) : Prop where
  opened (entity : EntityId) (salt firstSeen : UInt64) : Holds (.empty entity salt firstSeen)
  takenIn (record : Record) (event : Feedback) : event.check = .ok () → Holds record →
    Holds (record.takeIn hashing config event).record
  settled (record : Record) (event : Revocation) (recency : Recency) (score : UInt8)
    (location : Location) : record.lookUp hashing event = (recency, .revoked score location) →
    Holds record → Holds ({ record with recency }.settled hashing config event score).1
  answered (record : Record) (event : Response) : Holds record →
    Holds (record.answered hashing event).record

/-- **Every effect keeps what every event keeps.** -/
theorem KeptByEvents.step {Holds : Record → Prop} (kept : KeptByEvents hashing config Holds)
    {before after : Option Record} {reply : Reply}
    (holds : ∀ record, before = some record → Holds record)
    (effect : Effect hashing config entity before reply after) :
    ∀ record, after = some record → Holds record := by
  cases effect with
  | kept => exact holds
  | ingested about checked entered room =>
    rintro _ ⟨⟩
    rcases Record.opened_eq_ok.mp entered with ⟨known, -⟩ | ⟨-, rfl⟩
    · exact kept.takenIn _ _ checked (holds _ known)
    · exact kept.takenIn _ _ checked (kept.opened _ _ _)
  | revoked about checked timely found room settles =>
    rintro _ ⟨⟩
    exact settles ▸ kept.settled _ _ _ _ _ found (holds _ rfl)
  | responded =>
    rintro _ ⟨⟩
    exact kept.answered _ _ (holds _ rfl)

/-- **What every event keeps holds of every record after every run.** -/
theorem holds_of_run {Holds : Record → Prop} (Kind : Config → Prop) (first : Kind config)
    (updated : ∀ config : Config, config.check = .ok () → Kind config)
    (kept : ∀ config, Kind config → KeptByEvents hashing config Holds) (calls : List Call) :
    ∀ record, ((system hashing config).final calls).record? entity = some record → Holds record :=
  record_invariant Kind (fun _ current => ∀ record, current = some record → Holds record) first
    updated (fun _ absent => by cases absent)
    (fun _ _ _ _ _ holds kind effect => (kept _ kind).step holds effect) calls

end Engine

end Reputation
