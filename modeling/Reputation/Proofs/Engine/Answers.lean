/-
**The engine answers for its records.**

An event reaches the record of its entity through the engine, which looks for the slot, keeps what
becomes of the record and counts what is refused. In all states, a feedback or a revocation is
answered as the record at hand answers it, or as none does; if it is refused, be it for its numbers,
for its time or for a full counter, the counter of refused events is all that changes. So it is with
responses to entities that have a slot.

A response to an entity without a slot is turned away before its numbers are looked at. It is not
counted, and if its sequence index is malformed, it is not told so.

* `Event.check`, `Event.refusal`, `Event.answerOn`: the checks on the numbers of an event, how it is
  refused, and how a record answers it.
* `Follows`: an operation answers as an attempt does; `applyIngest_follows`, `applyRevoke_follows`,
  `applyRespond_follows` for the three operations and the record at hand.
* `Relayed`, `relayed`: an event is answered as by the record of its entity.
* `call_unslotted`: a response to an entity without a slot.
* **`answered_by_record`**: when an event is answered as by the record, and what is refused.
* `malformed_response_overlooked`: a malformed response that is refused for another reason.
-/

import Reputation.Proofs.Engine.Bookkeeping

namespace Reputation

namespace Engine

/-! ### What a record answers -/

/-- The checks on the numbers of an event. -/
def Event.check : Event → Except Error Unit
  | .feedback event => event.check
  | .revocation event => event.check
  | .response event => event.check

/-- The reply to an event that is refused. -/
def Event.refusal (error : Error) : Event → Reply
  | .feedback event => .ingested event (.error error)
  | .revocation event => .revoked event (.error error)
  | .response event => .responded event (.error error)

/-- The reply to an event as the record of its entity, if there is one, answers it. -/
def Event.answerOn (hashing : Hashing) (config : Config) (current : Option Record) : Event → Reply
  | .feedback event =>
    .ingested event ((Record.ingest hashing config current event).map (·.result))
  | .revocation event =>
    .revoked event ((Record.revoke hashing config current event).map (·.result))
  | .response event =>
    .responded event ((Record.respond hashing current event).map (·.result))

/-- Whether an event is a response to an entity without a slot. -/
def unslotted (engine : Engine) : Event → Bool
  | .response event => engine.slots[event.entity]?.isNone
  | _ => false

variable {engine : Engine} {hashing : Hashing} {config : Config} {current : Option Record}
  {error other : Error}

theorem Event.refusal_inj {event : Event} (same : event.refusal error = event.refusal other) :
    error = other := by
  cases event <;> cases same <;> rfl

/-- What the checks on the numbers find is a fault of the event. -/
theorem Event.fault_of_check {event : Event} (failed : event.check = .error error) :
    ∃ fault, error = .validation fault := by
  cases event with
  | feedback event =>
    obtain ⟨fault, same, -⟩ := Record.fault_of_check failed
    exact ⟨fault, same⟩
  | revocation event | response event =>
    obtain ⟨fault, same, -⟩ := Record.fault_of_checkSequence failed
    exact ⟨fault, same⟩

/-- A malformed event is refused with what its checks find, whatever the record. -/
theorem Event.answerOn_of_check {event : Event} (failed : event.check = .error error) :
    event.answerOn hashing config current = event.refusal error := by
  cases event with
  | feedback event =>
    have refused : Record.ingest hashing config current event = .error error :=
      bind_eq_error.mpr (.inl failed)
    rw [answerOn, refused]
    rfl
  | revocation event =>
    have refused : Record.revoke hashing config current event = .error error :=
      bind_eq_error.mpr (.inl failed)
    rw [answerOn, refused]
    rfl
  | response event =>
    have refused : Record.respond hashing current event = .error error :=
      bind_eq_error.mpr (.inl failed)
    rw [answerOn, refused]
    rfl

/-! ### What the engine answers -/

/-- An event is answered as by the record of its entity, and if it is refused, nothing but the
counter of refused events changes. -/
structure Relayed (engine : Engine) (hashing : Hashing) (event : Event) : Prop where
  reply : (engine.call hashing event.call).2.reply =
    event.answerOn hashing engine.config (engine.record? event.entity)
  refused : ∀ error, (engine.call hashing event.call).2.reply = event.refusal error →
    (engine.call hashing event.call).1 = { engine with metrics := engine.metrics.countRejected }

/-- An operation answers as an attempt does, and if it fails, nothing but the counter of refused
events changes. -/
structure Follows {Answer : Type} (engine : Engine) (outcome : Outcome Answer)
    (attempt : Except Error Answer) : Prop where
  answer : outcome.answer = attempt
  refused : ∀ error, attempt = .error error →
    outcome.engine = { engine with metrics := engine.metrics.countRejected }

theorem applyIngest_follows (engine : Engine) (hashing : Hashing) (event : Feedback) :
    engine.Follows (engine.applyIngest hashing event)
      ((Record.ingest hashing engine.config (engine.record? event.entity) event).map
        (·.result)) := by
  rw [applyIngest_eq]
  cases Record.ingest hashing engine.config (engine.record? event.entity) event with
  | error error => exact ⟨rfl, fun _ _ => rfl⟩
  | ok ingested => exact ⟨rfl, fun _ failed => by cases failed⟩

theorem applyRevoke_follows (engine : Engine) (hashing : Hashing) (event : Revocation) :
    engine.Follows (engine.applyRevoke hashing event)
      ((Record.revoke hashing engine.config (engine.record? event.entity) event).map
        (·.result)) := by
  unfold applyRevoke
  cases Record.revoke hashing engine.config (engine.record? event.entity) event with
  | error error => exact ⟨rfl, fun _ _ => rfl⟩
  | ok revoked => exact ⟨rfl, fun _ failed => by cases failed⟩

theorem applyRespond_follows (hashing : Hashing) {event : Response} {slot : Option Record}
    (slotted : engine.slots[event.entity]? = some slot) :
    engine.Follows (engine.applyRespond hashing event)
      ((Record.respond hashing (engine.record? event.entity) event).map (·.result)) := by
  have known : engine.record? event.entity = slot := by rw [record?, slotted]; rfl
  rw [applyRespond, slotted, known]
  dsimp only
  cases Record.respond hashing slot event with
  | error error => exact ⟨rfl, fun _ _ => rfl⟩
  | ok responded => exact ⟨rfl, fun _ failed => by cases failed⟩

/-- **An event is relayed unless it is a response to an entity without a slot.** -/
theorem relayed (hashing : Hashing) {event : Event} (heard : engine.unslotted event = false) :
    engine.Relayed hashing event := by
  cases event with
  | feedback event =>
    have follows := engine.applyIngest_follows hashing event
    refine ⟨congrArg (Reply.ingested event) follows.answer, fun error refusal => ?_⟩
    exact follows.refused error (follows.answer.symm.trans (Reply.ingested.inj refusal).2)
  | revocation event =>
    have follows := engine.applyRevoke_follows hashing event
    refine ⟨congrArg (Reply.revoked event) follows.answer, fun error refusal => ?_⟩
    exact follows.refused error (follows.answer.symm.trans (Reply.revoked.inj refusal).2)
  | response event =>
    obtain ⟨slot, slotted⟩ := Option.isSome_iff_exists.mp (Option.isNone_eq_false_iff.mp heard)
    have follows := applyRespond_follows hashing slotted
    refine ⟨congrArg (Reply.responded event) follows.answer, fun error refusal => ?_⟩
    exact follows.refused error (follows.answer.symm.trans (Reply.responded.inj refusal).2)

/-- **A response to an entity without a slot is turned away, whatever its numbers.** It is not
counted. -/
theorem call_unslotted (hashing : Hashing) {event : Event}
    (unheard : engine.unslotted event = true) :
    (engine.call hashing event.call).2.reply = event.refusal (.unknownEntity event.entity) ∧
      (engine.call hashing event.call).1 = engine ∧
      engine.record? event.entity = none := by
  cases event with
  | feedback | revocation => cases unheard
  | response event =>
    have slotless : engine.slots[event.entity]? = none := Option.isNone_iff_eq_none.mp unheard
    have unknown : engine.applyRespond hashing event =
        ⟨engine, .error (.unknownEntity event.entity), []⟩ := by
      rw [applyRespond, slotless]
    refine ⟨?_, ?_, ?_⟩
    · show Reply.responded event (engine.applyRespond hashing event).answer = _
      rw [unknown]
      rfl
    · show (engine.applyRespond hashing event).engine = engine
      rw [unknown]
    · show engine.slots[event.entity]?.join = none
      rw [slotless]
      rfl

/-- An entity without a record is unknown to a well-formed response. -/
theorem answerOn_of_unslotted {event : Event} (unheard : engine.unslotted event = true)
    (wellFormed : event.check = .ok ()) :
    event.answerOn hashing config none = event.refusal (.unknownEntity event.entity) := by
  cases event with
  | feedback | revocation => cases unheard
  | response event =>
    have unknown : Record.respond hashing none event = .error (.unknownEntity event.entity) :=
      bind_eq_error.mpr (.inr ⟨(), wellFormed, rfl⟩)
    rw [Event.answerOn, unknown]
    rfl

/-- **When the engine answers as its records do.** Take any engine, whatever is in its slots, and
any feedback, revocation or response, on an entity with a record or without one. The reply is the
one that the record, or none, gives under the configuration in force exactly if the event is not a
malformed response to an entity without a slot. Unless it is a response to such an entity, an event
that is refused changes nothing but the counter of refused events, and a malformed one is refused
with the fault that its checks find. A response to an entity without a slot is refused because the
entity is unknown, and changes nothing. -/
theorem answered_by_record (engine : Engine) (hashing : Hashing) (event : Event) :
    let next := (engine.call hashing event.call).1
    let reply := (engine.call hashing event.call).2.reply
    (reply = event.answerOn hashing engine.config (engine.record? event.entity) ↔
      (engine.unslotted event = true → event.check = .ok ())) ∧
      (engine.unslotted event = false →
        (∀ error, event.check = .error error →
          (∃ fault, error = .validation fault) ∧ reply = event.refusal error) ∧
        ∀ error, reply = event.refusal error →
          next = { engine with metrics := engine.metrics.countRejected }) ∧
      (engine.unslotted event = true →
        reply = event.refusal (.unknownEntity event.entity) ∧ next = engine) := by
  intro next reply
  cases heard : engine.unslotted event with
  | false =>
    have relays : engine.Relayed hashing event := relayed hashing heard
    refine ⟨⟨fun _ => nofun, fun _ => relays.reply⟩,
      fun _ => ⟨fun error failed => ?_, relays.refused⟩, nofun⟩
    exact ⟨Event.fault_of_check failed, relays.reply.trans (Event.answerOn_of_check failed)⟩
  | true =>
    obtain ⟨unknown, same, absent⟩ := call_unslotted hashing heard
    refine ⟨⟨fun agrees _ => ?_, fun wellFormed => ?_⟩, nofun, fun _ => ⟨unknown, same⟩⟩
    · cases checked : event.check with
      | ok => rfl
      | error error =>
        -- The two refusals would be one and the same error.
        obtain ⟨fault, rfl⟩ := Event.fault_of_check checked
        rw [Event.answerOn_of_check checked] at agrees
        cases Event.refusal_inj (unknown.symm.trans agrees)
    · rw [absent, answerOn_of_unslotted heard (wellFormed rfl)]
      exact unknown

/-- A response with a malformed sequence index. -/
def unindexed : Event := .response ⟨⟨1⟩, ⟨.ofSeed 1⟩, 0, 1000, ⟨.fill 0⟩⟩

/-- A revocation with the same fault. -/
def unindexedRevocation : Event := .revocation ⟨⟨1⟩, ⟨.ofSeed 1⟩, 0, 1000, ⟨.fill 0⟩⟩

/-- An engine without records refuses the revocation for its index and counts it, and turns the
response away. -/
theorem answered_by_record_unindexed :
    let engine : Engine := {}
    engine.unslotted unindexedRevocation = false ∧
      (engine.call summing unindexedRevocation.call).2.reply =
        unindexedRevocation.refusal (.validation .sequenceZero) ∧
      (engine.call summing unindexedRevocation.call).1 = { metrics := { rejected := 1 } } ∧
      engine.unslotted unindexed = true ∧
      (engine.call summing unindexed.call).2.reply = unindexed.refusal (.unknownEntity ⟨1⟩) ∧
      (engine.call summing unindexed.call).1 = engine := by
  intro engine
  have heard : engine.unslotted unindexedRevocation = false := rfl
  have unheard : engine.unslotted unindexed = true := by decide
  obtain ⟨-, relayed, -⟩ := answered_by_record engine summing unindexedRevocation
  obtain ⟨malformed, refused⟩ := relayed heard
  obtain ⟨-, refusal⟩ := malformed (.validation .sequenceZero) rfl
  obtain ⟨-, -, turned⟩ := answered_by_record engine summing unindexed
  obtain ⟨unknown, same⟩ := turned unheard
  exact ⟨heard, refusal, refused _ refusal, unheard, unknown, same⟩

/-- **A malformed response is overlooked.** By an engine without records it is neither refused for
its index, as it is on a record or on none and as a revocation is, nor counted. -/
theorem malformed_response_overlooked :
    let engine : Engine := {}
    let reply := (engine.call summing unindexed.call).2.reply
    unindexed.check = .error (.validation .sequenceZero) ∧
      reply ≠ unindexed.refusal (.validation .sequenceZero) ∧
      reply ≠ unindexed.answerOn summing engine.config (engine.record? unindexed.entity) ∧
      (engine.call summing unindexed.call).1.metrics.rejected ≠ engine.metrics.rejected + 1 := by
  intro engine reply
  have unknown : reply = unindexed.refusal (.unknownEntity ⟨1⟩) := rfl
  have answer : unindexed.answerOn summing engine.config (engine.record? unindexed.entity) =
      unindexed.refusal (.validation .sequenceZero) := rfl
  have told : reply ≠ unindexed.refusal (.validation .sequenceZero) := fun same => by
    cases Event.refusal_inj (unknown.symm.trans same)
  exact ⟨rfl, told, answer ▸ told, by decide⟩

end Engine

end Reputation
