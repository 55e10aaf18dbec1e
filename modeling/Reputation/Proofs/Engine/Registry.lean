/-
**The registry holds records and nothing else.**

A feedback opens the slot of its entity before it is known whether it will be accepted. Still no
slot is ever left empty: a feedback that passes the checks on its numbers is always accepted if its
entity has no record. A slot therefore holds a record of its own entity, an entity has a slot
exactly if a feedback on it was accepted or a record of it was put in, and what is refused leaves
no trace but in the counters.

* `Record.ingest_first`: a first feedback that passes its checks is accepted.
* `applyIngest_eq`: a slot is opened for accepted feedbacks only.
* `SlotStep` lists what a call can do to the slots, and `call_slotStep` says that it does no more.
* `Intact`: every slot holds a record of its own entity, which every request keeps.
* `ingestBatch_slots`: a batch does to the slots what its accepted feedbacks alone would do.
* **`registry_integrity`**: after every run of requests.
-/

import Reputation.Proofs.Engine.Batch
import Reputation.Proofs.Engine.Standing

namespace Reputation

/-- **A first feedback that passes its checks is accepted.** Nothing is there yet that its time
could be behind, and its counters are at zero. -/
theorem Record.ingest_first (hashing : Hashing) (config : Config) {event : Feedback}
    (checked : event.check = .ok ()) :
    ∃ ingested, Record.ingest hashing config none event = .ok ingested := by
  let first := Record.empty event.entity (entitySalt hashing event.entity event.rater event.time)
    event.time
  have empty : HasRoom 0 := by decide
  have room : first.RoomFor (config.tiers.epochOf event.time) := ⟨empty, fun _ => empty⟩
  exact ⟨first.takeIn hashing config event, ingest_eq_ok.mpr
    ⟨first, checked, opened_eq_ok.mpr (.inr ⟨rfl, rfl⟩), room, rfl⟩⟩

namespace Engine

/-! ### Requests -/

/-- Whether an entity gets a record by a call: a feedback on it was accepted. -/
def Reply.enters (entity : EntityId) : Reply → Bool
  | .ingested event (.ok _) => event.entity = entity
  | _ => false

/-- Whether a call was answered with an error or is a revocation without impact. -/
def Reply.refused : Reply → Bool
  | .ingested _ (.ok _) | .responded _ (.ok _) | .configured _ (.ok _) => false
  | .revoked _ (.ok result) => !result.hadImpact
  | _ => true

/-- What can be asked of an engine. -/
inductive Request where
  | call (call : Call)
  | batch (events : List Feedback)
  | importRecord (record : Record)

/-- A request with its answer. -/
inductive Answered where
  | called (reply : Reply)
  | batched (events : List Feedback) (answers : List (Except Error UpdateResult))
  | imported (record : Record)

/-- The engine after a request, and the answer. -/
def serve (engine : Engine) (hashing : Hashing) : Request → Engine × Answered
  | .call call =>
    let (next, entry) := engine.call hashing call
    (next, .called entry.reply)
  | .batch events =>
    let outcome := engine.ingestBatch hashing events
    (outcome.engine, .batched events outcome.answers)
  | .importRecord record => (engine.importRecord record, .imported record)

/-- The engine as a system that serves requests, starting without records. -/
def service (hashing : Hashing) (config : Config) : System Engine Request Answered where
  start := { config }
  step engine := engine.serve hashing

/-- The feedbacks of a batch that were accepted. -/
def accepted (events : List Feedback) (answers : List (Except Error UpdateResult)) :
    List Feedback :=
  ((events.zip answers).filter (·.2.isOk)).map (·.1)

/-- Whether an entity gets a record by a request: by an accepted feedback, alone or in a batch, or
by a record of it that is put in. -/
def Answered.enters (entity : EntityId) : Answered → Bool
  | .called reply => reply.enters entity
  | .batched events answers => (accepted events answers).any (·.entity = entity)
  | .imported record => record.entity = entity

variable {engine first second : Engine} {hashing : Hashing} {config : Config} {entity : EntityId}
  {record : Record} {events : List Feedback}

/-! ### Intact registries -/

/-- Every slot holds a record of its own entity. -/
def Intact (engine : Engine) : Prop :=
  ∀ (entity : EntityId) slot, engine.slots[entity]? = some slot →
    ∃ record, slot = some record ∧ record.entity = entity

theorem intact_start (config : Config) : ({ config } : Engine).Intact := by
  intro entity slot held
  exact absurd held (by simp)

theorem Intact.of_slots_eq (intact : first.Intact) (same : second.slots = first.slots) :
    second.Intact := by
  unfold Intact
  rw [same]
  exact intact

theorem record?_eq_some :
    engine.record? entity = some record ↔ engine.slots[entity]? = some (some record) :=
  Option.join_eq_some_iff

theorem mem_slots_of_record? (known : engine.record? entity = some record) :
    entity ∈ engine.slots := by
  rw [Std.ExtTreeMap.mem_iff_isSome_getElem?, record?_eq_some.mp known]
  rfl

theorem Intact.own (intact : engine.Intact) (known : engine.record? entity = some record) :
    record.entity = entity := by
  obtain ⟨_, ⟨⟩, own⟩ := intact entity _ (record?_eq_some.mp known)
  exact own

theorem Intact.slotCount_eq (intact : engine.Intact) :
    engine.slotCount = engine.entityCount := by
  have each : ∀ slot ∈ engine.slots.toList, slot.2.isSome = true := by
    rintro ⟨entity, slot⟩ member
    obtain ⟨record, rfl, -⟩ := intact entity slot
      (Std.ExtTreeMap.mem_toList_iff_getElem?_eq_some.mp member)
    rfl
  show engine.slots.size = (engine.slots.toList.filterMap (·.2)).length
  rw [List.filterMap_length_eq_length.mpr each, Std.ExtTreeMap.length_toList]

theorem mem_records (intact : engine.Intact) :
    record ∈ engine.records ↔ engine.record? record.entity = some record := by
  rw [records, List.mem_filterMap, record?_eq_some]
  constructor
  · rintro ⟨⟨entity, slot⟩, member, rfl⟩
    have held := Std.ExtTreeMap.mem_toList_iff_getElem?_eq_some.mp member
    rwa [intact.own (record?_eq_some.mpr held)]
  · intro held
    exact ⟨(record.entity, some record),
      Std.ExtTreeMap.mem_toList_iff_getElem?_eq_some.mpr held, rfl⟩

/-- The entities of the records are those with a slot. -/
theorem Intact.entities_eq (intact : engine.Intact) :
    engine.records.map (·.entity) = engine.slots.keys := by
  have each : ∀ item ∈ engine.slots.toList, item.2.map (·.entity) = some item.1 := by
    rintro ⟨entity, slot⟩ member
    obtain ⟨record, rfl, rfl⟩ := intact entity slot
      (Std.ExtTreeMap.mem_toList_iff_getElem?_eq_some.mp member)
    rfl
  rw [records, List.map_filterMap, List.filterMap_congr each, List.filterMap_eq_map',
    Std.ExtTreeMap.map_fst_toList_eq_keys]

theorem Intact.put (intact : first.Intact)
    (slots : second.slots = first.slots.insert record.entity (some record)) : second.Intact := by
  intro other slot held
  simp only [slots, Std.ExtTreeMap.getElem?_insert, Std.LawfulEqCmp.compare_eq_iff_eq] at held
  split at held
  · rename_i here
    exact ⟨record, (Option.some.inj held).symm, here⟩
  · exact intact other slot held

theorem mem_insert_slots (slots : Registry) :
    entity ∈ slots.insert record.entity (some record) ↔
      record.entity = entity ∨ entity ∈ slots := by
  rw [Std.ExtTreeMap.mem_insert, Std.LawfulEqCmp.compare_eq_iff_eq]

/-! ### Feedbacks -/

theorem openSlot_of_mem (held : entity ∈ engine.slots) : engine.openSlot entity = engine := by
  have same : engine.slots.insertIfNew entity none = engine.slots := by
    refine Std.ExtTreeMap.ext_getElem? fun other => ?_
    rw [Std.ExtTreeMap.getElem?_insertIfNew, if_neg]
    rintro ⟨here, absent⟩
    rw [Std.LawfulEqCmp.compare_eq_iff_eq] at here
    exact absent (here ▸ held)
  rw [openSlot, same]

theorem setRecord_openSlot (record : Record) :
    (engine.openSlot entity).setRecord entity record = engine.setRecord entity record := by
  refine eq_of_share (fun other => ?_) rfl
  rw [share_setRecord, share_setRecord]
  split
  · rfl
  · rename_i apart
    exact share_openSlot_of_ne engine apart

/-- **A slot is opened for accepted feedbacks only.** A feedback that is refused leaves no empty
slot behind. -/
theorem applyIngest_eq (engine : Engine) (hashing : Hashing) (event : Feedback) :
    engine.applyIngest hashing event =
      match Record.ingest hashing engine.config (engine.record? event.entity) event with
      | .error error => engine.reject event.entity .ingest error
      | .ok ingested => engine.keepIngested event ingested := by
  unfold applyIngest
  split
  · rename_i error invalid
    have failed (current : Option Record) :
        Record.ingest hashing engine.config current event = .error error := by
      rw [Record.ingest, invalid]
      rfl
    rw [failed]
  · rename_i checked
    dsimp only
    rw [record?_openSlot]
    show (match Record.ingest hashing engine.config (engine.record? event.entity) event with
      | .error error => _
      | .ok ingested => _) = _
    split
    · rename_i error failed
      -- A feedback that fails after its checks is not the first, so its slot was there before.
      have held : event.entity ∈ engine.slots := by
        cases known : engine.record? event.entity with
        | some record => exact mem_slots_of_record? known
        | none =>
          obtain ⟨ingested, accepted⟩ := Record.ingest_first hashing engine.config checked
          rw [known, accepted] at failed
          cases failed
      rw [openSlot_of_mem held]
    · rename_i ingested accepted
      unfold keepIngested
      rw [setRecord_openSlot]
      rfl

/-! ### What a call can do to the slots -/

/-- What a call can do to the slots. -/
inductive SlotStep (engine : Engine) (reply : Reply) (next : Engine) : Prop
  /-- They are left alone. -/
  | kept (quiet : ∀ entity, reply.enters entity = false) (slots : next.slots = engine.slots)
  /-- An entity gets a record. -/
  | entered {record : Record} (heeded : reply.refused = false)
      (enters : ∀ entity, reply.enters entity = decide (record.entity = entity))
      (slots : next.slots = engine.slots.insert record.entity (some record))
  /-- The record of an entity changes. -/
  | changed {record : Record} (heeded : reply.refused = false)
      (quiet : ∀ entity, reply.enters entity = false) (held : record.entity ∈ engine.slots)
      (slots : next.slots = engine.slots.insert record.entity (some record))

theorem ingest_slotStep (intact : engine.Intact) (hashing : Hashing) (event : Feedback) :
    SlotStep engine (.ingested event (engine.ingest hashing event).answer)
      (engine.ingest hashing event).engine := by
  simp only [ingest, Outcome.within, applyIngest_eq]
  split
  · exact .kept (fun _ => rfl) rfl
  · rename_i ingested accepted
    obtain ⟨record, -, entered, -, rfl⟩ := Record.ingest_eq_ok.mp accepted
    have own : (record.takeIn hashing engine.config event).record.entity = event.entity := by
      rw [Record.entity_takeIn]
      rcases Record.opened_eq_ok.mp entered with ⟨known, -⟩ | ⟨-, rfl⟩
      · exact intact.own known
      · rfl
    refine .entered rfl (fun entity => by rw [own]; rfl) ?_
    rw [own]
    rfl

theorem revoke_slotStep (intact : engine.Intact) (hashing : Hashing) (event : Revocation) :
    SlotStep engine (.revoked event (engine.revoke hashing event).answer)
      (engine.revoke hashing event).engine := by
  simp only [revoke, Outcome.within, applyRevoke]
  split
  · exact .kept (fun _ => rfl) rfl
  · rename_i revoked carried
    obtain ⟨-, outcome⟩ := Record.revoke_cases carried
    show SlotStep engine (.revoked event (.ok revoked.result)) _
    generalize known : engine.record? event.entity = current at outcome
    cases outcome with
    | unknown => exact .kept (fun _ => rfl) rfl
    | missed => exact .kept (fun _ => rfl) rfl
    | repeated => exact .kept (fun _ => rfl) rfl
    | @struck record recency score location timely found room =>
      have own : (({ record with recency } : Record).settled hashing engine.config event
          score).1.entity = event.entity := by
        rw [Record.entity_settled]
        show record.entity = event.entity
        exact intact.own known
      refine .changed rfl (fun _ => rfl) (own ▸ mem_slots_of_record? known) ?_
      rw [own]
      rfl

theorem respond_slotStep (intact : engine.Intact) (hashing : Hashing) (event : Response) :
    SlotStep engine (.responded event (engine.respond hashing event).answer)
      (engine.respond hashing event).engine := by
  simp only [respond, Outcome.within, applyRespond]
  split
  · exact .kept (fun _ => rfl) rfl
  · rename_i current slot
    split
    · exact .kept (fun _ => rfl) rfl
    · rename_i responded accepted
      obtain ⟨record, -, rfl, -, rfl⟩ := Record.respond_eq_ok.mp accepted
      have known : engine.record? event.entity = some record := by rw [record?, slot]; rfl
      have own : (record.answered hashing event).record.entity = event.entity := by
        rw [Record.entity_answered]
        exact intact.own known
      refine .changed rfl (fun _ => rfl) (own ▸ mem_slots_of_record? known) ?_
      rw [own]
      rfl

/-- **What every call does to the slots of an intact registry.** -/
theorem call_slotStep (intact : engine.Intact) (hashing : Hashing) (call : Call) :
    SlotStep engine (engine.call hashing call).2.reply (engine.call hashing call).1 := by
  cases call with
  | ingest event => exact ingest_slotStep intact hashing event
  | revoke event => exact revoke_slotStep intact hashing event
  | respond event => exact respond_slotStep intact hashing event
  | updateConfig config =>
    refine .kept (fun _ => rfl) ?_
    show (engine.updateConfig config).engine.slots = engine.slots
    unfold updateConfig
    split <;> rfl

theorem SlotStep.intact {reply : Reply} (step : SlotStep first reply second)
    (intact : first.Intact) : second.Intact := by
  cases step with
  | kept _ slots => exact intact.of_slots_eq slots
  | entered _ _ slots => exact intact.put slots
  | changed _ _ _ slots => exact intact.put slots

/-- The entities with a slot are those before and those that enter. -/
theorem SlotStep.mem_slots {reply : Reply} (step : SlotStep first reply second) :
    entity ∈ second.slots ↔ entity ∈ first.slots ∨ reply.enters entity = true := by
  cases step with
  | kept quiet slots => simp [slots, quiet]
  | entered heeded enters slots =>
    rw [slots, mem_insert_slots, enters, decide_eq_true_eq]
    exact or_comm
  | @changed record heeded quiet held slots =>
    rw [slots, mem_insert_slots, quiet]
    constructor
    · rintro (rfl | before)
      exacts [.inl held, .inl before]
    · rintro (before | enters)
      exacts [.inr before, by cases enters]

theorem SlotStep.slots_eq {reply : Reply} (step : SlotStep first reply second)
    (refused : reply.refused = true) : second.slots = first.slots := by
  cases step with
  | kept _ slots => exact slots
  | entered heeded => rw [heeded] at refused; cases refused
  | changed heeded => rw [heeded] at refused; cases refused

theorem config_of_refused (call : Call)
    (refused : (engine.call hashing call).2.reply.refused = true) :
    (engine.call hashing call).1.config = engine.config := by
  cases call with
  | ingest event => exact config_ingest event
  | revoke event => exact config_revoke event
  | respond event => exact config_respond event
  | updateConfig config =>
    change Reply.refused (.configured config (engine.updateConfig config).answer) = true at refused
    show (engine.updateConfig config).engine.config = _
    unfold updateConfig at refused ⊢
    split
    · rfl
    · rename_i within
      rw [within] at refused
      cases refused

/-! ### Batches -/

theorem accepted_cons (event : Feedback) (answer : Except Error UpdateResult)
    (answers : List (Except Error UpdateResult)) :
    accepted (event :: events) (answer :: answers) =
      if answer.isOk then event :: accepted events answers else accepted events answers := by
  simp only [accepted, List.zip_cons_cons, List.filter_cons]
  split <;> rfl

theorem share_ingest_of_refused {event : Feedback}
    (failed : (engine.ingest hashing event).answer.isOk = false) :
    (engine.ingest hashing event).engine.share entity = engine.share entity := by
  simp only [ingest, Outcome.within, applyIngest_eq] at failed ⊢
  split
  · rfl
  · rename_i accepted
    rw [accepted] at failed
    cases failed

/-- What the feedbacks of a batch do to the slots in turn. -/
theorem intake_slots (intact : engine.Intact) (hashing : Hashing) (events : List Feedback) :
    let last := (intake hashing).finalFrom engine events
    last.Intact ∧ last.config = engine.config ∧
      ∀ entity, entity ∈ last.slots ↔ entity ∈ engine.slots ∨
        (accepted events ((intake hashing).historyFrom engine events)).any
          (·.entity = entity) = true := by
  induction events generalizing engine with
  | nil => exact ⟨intact, rfl, fun entity => by simp [accepted, System.finalFrom]⟩
  | cons event rest ih =>
    have step := ingest_slotStep intact hashing event
    obtain ⟨intactLast, config, members⟩ := ih (step.intact intact)
    refine ⟨intactLast, config.trans (config_ingest event), fun entity => ?_⟩
    have enters : Reply.enters entity (.ingested event (engine.ingest hashing event).answer) =
        ((engine.ingest hashing event).answer.isOk && decide (event.entity = entity)) := by
      cases (engine.ingest hashing event).answer <;> rfl
    refine (members entity).trans ?_
    rw [step.mem_slots, enters, System.historyFrom]
    show _ ↔ _ ∨ (accepted (event :: rest) ((engine.ingest hashing event).answer :: _)).any _ = true
    rw [accepted_cons]
    cases (engine.ingest hashing event).answer.isOk <;> simp [or_assoc, intake]

/-- Feedbacks that are refused may as well be left out. -/
theorem intake_accepted (same : ∀ entity, first.share entity = second.share entity)
    (events : List Feedback) (entity : EntityId) :
    ((intake hashing).finalFrom first events).share entity =
      ((intake hashing).finalFrom second
        (accepted events ((intake hashing).historyFrom first events))).share entity := by
  -- The counters of the two engines come apart at refused feedbacks, their slots never do.
  induction events generalizing first second with
  | nil => exact same entity
  | cons event rest ih =>
    show ((intake hashing).finalFrom (first.ingest hashing event).engine rest).share entity =
      ((intake hashing).finalFrom second (accepted (event :: rest)
        ((first.ingest hashing event).answer ::
          (intake hashing).historyFrom (first.ingest hashing event).engine rest))).share entity
    rw [accepted_cons]
    split
    · refine ih fun other => ?_
      by_cases here : event.entity = other
      · subst here
        exact ((intake_isolated hashing).here first second event (same _)).2
      · exact (share_applyIngest_of_ne here).trans
          ((same other).trans (share_applyIngest_of_ne here).symm)
    · rename_i refused
      exact ih fun other =>
        (share_ingest_of_refused (by simpa using refused)).trans (same other)

/-- **A batch does to the slots what its accepted feedbacks alone would do.** -/
theorem ingestBatch_slots (engine : Engine) (hashing : Hashing) (events : List Feedback) :
    (engine.ingestBatch hashing events).engine.slots = (engine.ingestBatch hashing
      (accepted events (engine.ingestBatch hashing events).answers)).engine.slots := by
  have whole := ingestBatch_inTurn engine hashing events
  rw [whole.engine, whole.answers, (ingestBatch_inTurn engine hashing _).engine]
  refine Std.ExtTreeMap.ext_getElem? fun entity => ?_
  exact congrArg Prod.snd (intake_accepted (fun _ => rfl) events entity)

/-! ### Runs of requests -/

/-- **Every request keeps the registry intact, and the entities with a slot are those before and
those that enter.** -/
theorem serve_slots (intact : engine.Intact) (hashing : Hashing) (request : Request) :
    (engine.serve hashing request).1.Intact ∧
      ∀ entity, entity ∈ (engine.serve hashing request).1.slots ↔
        entity ∈ engine.slots ∨ (engine.serve hashing request).2.enters entity = true := by
  cases request with
  | call call =>
    have step := call_slotStep intact hashing call
    exact ⟨step.intact intact, fun entity => step.mem_slots⟩
  | batch events =>
    have turns := ingestBatch_inTurn engine hashing events
    obtain ⟨intactLast, -, members⟩ := intake_slots intact hashing events
    rw [← turns.engine] at intactLast members
    rw [← turns.answers] at members
    exact ⟨intactLast, members⟩
  | importRecord record =>
    refine ⟨intact.put rfl, fun entity => (mem_insert_slots engine.slots).trans ?_⟩
    rw [serve, Answered.enters, decide_eq_true_eq]
    exact or_comm

/-- **The registry holds records and nothing else.** After every run of feedbacks, batches,
revocations, responses, new configurations and records put in, every slot holds a record of its own
entity, so that there are as many slots as records; and an entity has a slot exactly if a feedback
on it was accepted or a record of it was put in. There, a call that is answered with an error and a
revocation without impact leave the slots, with all that is in them, and the configuration as they
are. A batch leaves the configuration as it is too, and the slots as its accepted feedbacks alone
would leave them. -/
theorem registry_integrity (hashing : Hashing) (config : Config) (requests : List Request) :
    let engine := (service hashing config).final requests
    let history := (service hashing config).history requests
    (∀ (entity : EntityId) slot, engine.slots[entity]? = some slot →
        ∃ record, slot = some record ∧ record.entity = entity) ∧
      engine.slotCount = engine.entityCount ∧
      (∀ entity, entity ∈ engine.slots ↔ ∃ answered ∈ history, answered.enters entity = true) ∧
      (∀ call, (engine.call hashing call).2.reply.refused = true →
        (engine.call hashing call).1.slots = engine.slots ∧
          (engine.call hashing call).1.config = engine.config) ∧
      ∀ events, let outcome := engine.ingestBatch hashing events
        outcome.engine.config = engine.config ∧ outcome.engine.slots =
          (engine.ingestBatch hashing (accepted events outcome.answers)).engine.slots := by
  intro engine history
  have both : engine.Intact ∧
      ∀ entity, entity ∈ engine.slots ↔ ∃ answered ∈ history, answered.enters entity = true := by
    refine (service hashing config).invariant (fun history engine => engine.Intact ∧
      ∀ entity, entity ∈ engine.slots ↔ ∃ answered ∈ history, answered.enters entity = true)
      ⟨intact_start config, fun entity => by simp [service]⟩ ?_ requests
    rintro history engine request ⟨intact, members⟩
    obtain ⟨intactNext, membersNext⟩ := serve_slots intact hashing request
    refine ⟨intactNext, fun entity => (membersNext entity).trans ?_⟩
    rw [members]
    simp [service, or_and_right, exists_or]
  obtain ⟨intact, members⟩ := both
  refine ⟨intact, intact.slotCount_eq, members, fun call refused => ?_, fun events => ?_⟩
  · exact ⟨(call_slotStep intact hashing call).slots_eq refused, config_of_refused call refused⟩
  · intro outcome
    refine ⟨?_, ingestBatch_slots engine hashing events⟩
    rw [(ingestBatch_inTurn engine hashing events).engine]
    exact (intake_slots intact hashing events).2.1

/-- A feedback that comes too late and one that is out of range. -/
def hopeless : List Feedback := [opinion 1 6 50 9, opinion 2 6 101 20]

/-- A feedback that is accepted, a batch of hopeless ones, and a record that is put in. -/
def hardlyServed : List Request :=
  [.call (.ingest (opinion 1 5 80 10)), .batch hopeless, .importRecord (.empty ⟨3⟩ 0 0)]

/-- Another feedback that comes too late. -/
def tooLate : Call := .ingest (opinion 1 7 50 8)

theorem final_hardlyServed :
    (service summing {}).final hardlyServed =
      ((intake summing).finalFrom (({} : Engine).call summing (.ingest (opinion 1 5 80 10))).1
        hopeless).importRecord (.empty ⟨3⟩ 0 0) := by
  simp only [System.final, hardlyServed, System.finalFrom, service, serve]
  rw [(ingestBatch_inTurn _ summing hopeless).engine]

/-- Afterwards the first entity has a slot and the second has none, and another feedback that comes
too late leaves all slots as they are. -/
theorem registry_integrity_late :
    let engine := (service summing {}).final hardlyServed
    engine.slotCount = engine.entityCount ∧ ⟨1⟩ ∈ engine.slots ∧ ⟨2⟩ ∉ engine.slots ∧
      (engine.call summing tooLate).2.reply.refused = true ∧
      (engine.call summing tooLate).1.slots = engine.slots := by
  obtain ⟨-, counts, -, still, -⟩ := registry_integrity summing {} hardlyServed
  have refused :
      (((service summing {}).final hardlyServed).call summing tooLate).2.reply.refused = true := by
    rw [final_hardlyServed]
    decide +kernel
  refine ⟨counts, ?_, ?_, refused, (still tooLate refused).1⟩
  · rw [final_hardlyServed]
    decide +kernel
  · rw [final_hardlyServed]
    decide +kernel

end Engine

end Reputation
