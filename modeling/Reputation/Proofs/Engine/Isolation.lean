/-
**Entities are isolated from each other.**

An event sees and changes nothing but the slot of its entity, the configuration aside, which it
leaves alone. The counters are sums over what was answered and reported. The order in which events
on different entities reach the engine is therefore of no account: each is answered alike, and the
engine ends up the same.

* `handle_agree`, `share_handle_of_ne`: what an event sees, and what it leaves alone.
* `dispatch_isolated`: events keep to the slots of their entities.
* `metrics_finalFrom`: the counters after a run, by its reports alone.
* `finalFrom_eq`: interleaved runs of events end in the same engine.
-/

import Reputation.Proofs.Engine.Counting
import Reputation.Proofs.Isolation

namespace Reputation

namespace Engine

/-! ### Events -/

/-- An event on an entity. -/
inductive Event where
  | feedback (event : Feedback)
  | revocation (event : Revocation)
  | response (event : Response)
deriving DecidableEq, Repr

/-- The entity that an event is on. -/
def Event.entity : Event → EntityId
  | .feedback event => event.entity
  | .revocation event => event.entity
  | .response event => event.entity

/-- The engine after an event, and what came of it. -/
def handle (engine : Engine) (hashing : Hashing) : Event → Engine × Report
  | .feedback event =>
    let outcome := engine.ingest hashing event
    (outcome.engine, ⟨.ingested event outcome.answer, outcome.log⟩)
  | .revocation event =>
    let outcome := engine.revoke hashing event
    (outcome.engine, ⟨.revoked event outcome.answer, outcome.log⟩)
  | .response event =>
    let outcome := engine.respond hashing event
    (outcome.engine, ⟨.responded event outcome.answer, outcome.log⟩)

/-- The engine as a system that takes events. -/
def dispatch (hashing : Hashing) : System Engine Event Report where
  start := {}
  step engine := engine.handle hashing

/-! ### What an event can see -/

/-- What of the engine an event on an entity can see: the configuration and the entity's slot. -/
def share (engine : Engine) (entity : EntityId) : Config × Option (Option Record) :=
  (engine.config, engine.slots[entity]?)

variable {engine first second : Engine} {hashing : Hashing} {entity other : EntityId}

theorem share_setRecord (record : Record) : (engine.setRecord entity record).share other =
    if entity = other then (engine.config, some (some record)) else engine.share other := by
  simp only [share, setRecord, Std.ExtTreeMap.getElem?_insert, Std.LawfulEqCmp.compare_eq_iff_eq]
  split <;> rfl

theorem share_openSlot : (engine.openSlot entity).share other =
    if entity = other then (engine.config, some (engine.record? entity))
    else engine.share other := by
  simp only [share, openSlot, record?, Std.ExtTreeMap.getElem?_insertIfNew,
    Std.LawfulEqCmp.compare_eq_iff_eq]
  by_cases here : entity = other
  · subst here
    by_cases present : entity ∈ engine.slots <;> simp [present]
  · simp [here]

theorem config_eq_of_share (same : first.share entity = second.share entity) :
    first.config = second.config := congrArg Prod.fst same

theorem record?_eq_of_share (same : first.share entity = second.share entity) :
    first.record? entity = second.record? entity :=
  congrArg (fun share : Config × Option (Option Record) => share.2.join) same

/-- Two outcomes are the same as far as an entity is concerned. -/
structure Agree {α : Type} (entity : EntityId) (one other : Outcome α) : Prop where
  answer : one.answer = other.answer
  log : one.log = other.log
  share : one.engine.share entity = other.engine.share entity

theorem reject_agree {α : Type} (same : first.share entity = second.share entity)
    (operation : Operation) (error : Error) :
    Agree entity (first.reject entity operation error : Outcome α)
      (second.reject entity operation error) := ⟨rfl, rfl, same⟩

/-! ### What an event does to its own entity -/

theorem setRecord_share_eq (same : first.share entity = second.share entity) (record : Record) :
    (first.setRecord entity record).share entity =
      (second.setRecord entity record).share entity := by
  rw [share_setRecord, share_setRecord, if_pos rfl, if_pos rfl, config_eq_of_share same]

theorem openSlot_share_eq (same : first.share entity = second.share entity) :
    (first.openSlot entity).share entity = (second.openSlot entity).share entity := by
  rw [share_openSlot, share_openSlot, if_pos rfl, if_pos rfl, config_eq_of_share same,
    record?_eq_of_share same]

theorem applyIngest_agree (hashing : Hashing) {event : Feedback}
    (same : first.share event.entity = second.share event.entity) :
    Agree event.entity (first.applyIngest hashing event) (second.applyIngest hashing event) := by
  unfold applyIngest
  split
  · exact reject_agree same _ _
  · have opened := openSlot_share_eq same
    dsimp only
    rw [config_eq_of_share opened, record?_eq_of_share opened]
    split
    · exact reject_agree opened _ _
    · exact ⟨rfl, rfl, setRecord_share_eq opened _⟩

theorem applyRevoke_agree (hashing : Hashing) {event : Revocation}
    (same : first.share event.entity = second.share event.entity) :
    Agree event.entity (first.applyRevoke hashing event) (second.applyRevoke hashing event) := by
  unfold applyRevoke
  rw [config_eq_of_share same, record?_eq_of_share same]
  split
  · exact reject_agree same _ _
  · rename_i revoked carried
    refine ⟨rfl, rfl, ?_⟩
    show (revoked.record.elim first _).share event.entity =
      (revoked.record.elim second _).share event.entity
    cases revoked.record with
    | none => exact same
    | some record => exact setRecord_share_eq same record

theorem applyRespond_agree (hashing : Hashing) {event : Response}
    (same : first.share event.entity = second.share event.entity) :
    Agree event.entity (first.applyRespond hashing event) (second.applyRespond hashing event) := by
  have slots : first.slots[event.entity]? = second.slots[event.entity]? := congrArg Prod.snd same
  unfold applyRespond
  rw [slots]
  split
  · exact ⟨rfl, rfl, same⟩
  · split
    · exact reject_agree same _ _
    · exact ⟨rfl, rfl, setRecord_share_eq same _⟩

/-- **What an event comes to is told by its entity's slot and the configuration.** -/
theorem handle_agree {event : Event}
    (same : first.share event.entity = second.share event.entity) :
    (first.handle hashing event).2 = (second.handle hashing event).2 ∧
      (first.handle hashing event).1.share event.entity =
        (second.handle hashing event).1.share event.entity := by
  cases event with
  | feedback event =>
    obtain ⟨answer, log, share⟩ := applyIngest_agree hashing same
    simp only [handle, ingest, Outcome.within]
    exact ⟨by rw [answer, log], share⟩
  | revocation event =>
    obtain ⟨answer, log, share⟩ := applyRevoke_agree hashing same
    simp only [handle, revoke, Outcome.within]
    exact ⟨by rw [answer, log], share⟩
  | response event =>
    obtain ⟨answer, log, share⟩ := applyRespond_agree hashing same
    simp only [handle, respond, Outcome.within]
    exact ⟨by rw [answer, log], share⟩

/-! ### What an event does to other entities -/

theorem share_setRecord_of_ne (engine : Engine) (apart : entity ≠ other) (record : Record) :
    (engine.setRecord entity record).share other = engine.share other := by
  rw [share_setRecord, if_neg apart]

theorem share_openSlot_of_ne (engine : Engine) (apart : entity ≠ other) :
    (engine.openSlot entity).share other = engine.share other := by
  rw [share_openSlot, if_neg apart]

theorem share_applyIngest_of_ne {event : Feedback} (apart : event.entity ≠ other) :
    (engine.applyIngest hashing event).engine.share other = engine.share other := by
  unfold applyIngest
  split
  · rfl
  · have opened : (engine.openSlot event.entity).share other = engine.share other :=
      share_openSlot_of_ne engine apart
    dsimp only
    split
    · exact opened
    · exact (share_setRecord_of_ne (engine.openSlot event.entity) apart _).trans opened

theorem share_applyRevoke_of_ne {event : Revocation} (apart : event.entity ≠ other) :
    (engine.applyRevoke hashing event).engine.share other = engine.share other := by
  unfold applyRevoke
  split
  · rfl
  · rename_i revoked _
    show (revoked.record.elim engine _).share other = _
    cases revoked.record with
    | none => rfl
    | some record => exact share_setRecord_of_ne engine apart record

theorem share_applyRespond_of_ne {event : Response} (apart : event.entity ≠ other) :
    (engine.applyRespond hashing event).engine.share other = engine.share other := by
  unfold applyRespond
  split
  · rfl
  · split
    · rfl
    · exact share_setRecord_of_ne engine apart _

/-- **An event leaves other entities and the configuration alone.** -/
theorem share_handle_of_ne {event : Event} (apart : event.entity ≠ other) :
    (engine.handle hashing event).1.share other = engine.share other := by
  cases event with
  | feedback event => exact share_applyIngest_of_ne apart
  | revocation event => exact share_applyRevoke_of_ne apart
  | response event => exact share_applyRespond_of_ne apart

/-- **Events keep to the slots of their entities.** -/
theorem dispatch_isolated (hashing : Hashing) :
    (dispatch hashing).Isolated Event.entity share where
  elsewhere _ _ _ := share_handle_of_ne
  here _ _ _ := handle_agree

/-! ### The counters after a run -/

/-- **The counters after an event, by its answer and report.** -/
theorem metrics_handle (event : Event) :
    (engine.handle hashing event).1.metrics =
      engine.metrics.countReport (engine.handle hashing event).2 := by
  cases event with
  | feedback event =>
    simp only [handle, ingest, Outcome.within, applyIngest]
    split
    · rfl
    · split
      · rfl
      · exact (Metrics.countLogged_transitionLog _ _ _).symm
  | revocation event =>
    simp only [handle, revoke, Outcome.within, applyRevoke]
    split
    · rfl
    · exact (Metrics.countLogged_transitionLog _ _ _).symm
  | response event =>
    simp only [handle, respond, Outcome.within, applyRespond]
    split
    · rfl
    · split <;> rfl

/-- **The counters after a run, by its reports alone.** -/
theorem metrics_finalFrom (engine : Engine) (events : List Event) :
    ((dispatch hashing).finalFrom engine events).metrics =
      ((dispatch hashing).historyFrom engine events).foldl Metrics.countReport engine.metrics := by
  induction events generalizing engine with
  | nil => rfl
  | cons event rest ih =>
    have counted : engine.metrics.countReport ((dispatch hashing).step engine event).2 =
        ((dispatch hashing).step engine event).1.metrics := (metrics_handle event).symm
    rw [System.historyFrom, List.foldl_cons, counted]
    exact ih _

/-! ### Interleaved runs -/

theorem eq_of_share (shares : ∀ entity, first.share entity = second.share entity)
    (metrics : first.metrics = second.metrics) : first = second := by
  obtain ⟨slots, config, counters⟩ := first
  obtain ⟨otherSlots, otherConfig, otherCounters⟩ := second
  obtain rfl : config = otherConfig := congrArg Prod.fst (shares ⟨0⟩)
  obtain rfl : counters = otherCounters := metrics
  obtain rfl : slots = otherSlots :=
    Std.ExtTreeMap.ext_getElem? fun entity => congrArg Prod.snd (shares entity)
  rfl

/-- **Interleaved runs of events end in the same engine.** -/
theorem finalFrom_eq (engine : Engine) {events others : List Event}
    (same : Interleaves Event.entity events others) :
    (dispatch hashing).finalFrom engine events = (dispatch hashing).finalFrom engine others := by
  have isolated := dispatch_isolated hashing
  have reports : ((dispatch hashing).historyFrom engine events).Perm
      ((dispatch hashing).historyFrom engine others) := by
    rw [← System.map_snd_transcriptFrom, ← System.map_snd_transcriptFrom]
    exact (isolated.transcript_eq engine same).perm.map Prod.snd
  refine eq_of_share (isolated.view_eq engine same) ?_
  rw [metrics_finalFrom, metrics_finalFrom]
  exact reports.foldl_eq' (fun one _ other _ metrics =>
    (Metrics.adds_report other).comm (Metrics.adds_report one) metrics) _

end Engine

end Reputation
