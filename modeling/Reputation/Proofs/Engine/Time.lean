/-
**Feedbacks keep time, revocations do not.**

An event is held against the time of the last accepted feedback on its entity, and a revocation
leaves that time alone. So nothing is scored that is earlier than a feedback accepted before it, and
what comes earlier is refused. A revocation is refused if it comes too late in the same way, but it
holds back nothing that comes after it: a feedback may be older than a revocation that was carried
out before it, and then the epochs by which the record is scored run backwards.

* `call_late`, `late_of_call`: what comes before the last time that a record knows is refused, and
  nothing else is called backwards in time.
* `call_of_fault`: an event that is refused as invalid leaves all but a counter alone.
* `Reply.acceptedAt?`, `Reply.scoredAt?`: when a feedback on an entity was accepted, and when its
  record was scored at all.
* `Dated`: the record of an entity knows the time of the last accepted feedback, which is the
  latest of them.
* **`ordered_by_feedbacks`**: what is refused for its time, and what is not.
* `feedback_before_revocation`: a feedback that is older than the revocation before it.
-/

import Mathlib.Tactic.Ring
import Reputation.Proofs.Engine.Registry
import Reputation.Proofs.Record.Refusal

namespace Reputation

/-! ### Epochs -/

theorem TierPolicy.toNat_epochOf (policy : TierPolicy) (time : UInt64) :
    (policy.epochOf time).toNat = time.toNat / max policy.epochLength.toNat 1 :=
  UInt64.toNat_ofNat_of_lt' (Nat.lt_of_le_of_lt (Nat.div_le_self _ _) time.toNat_lt)

/-- Later times are in later epochs. -/
theorem TierPolicy.epochOf_mono (policy : TierPolicy) {before time : UInt64}
    (later : before ≤ time) : policy.epochOf before ≤ policy.epochOf time := by
  rw [UInt64.le_iff_toNat_le, toNat_epochOf, toNat_epochOf]
  exact Nat.div_le_div_right later

/-- Times that are some epochs of one length apart are more than all but one of these epochs
apart. -/
theorem TierPolicy.elapsed_of_epochs {first second : TierPolicy} {before time : UInt64}
    {count : Nat} (same : first.epochLength = second.epochLength) (counted : 1 ≤ count)
    (apart : (first.epochOf before).toNat + count ≤ (second.epochOf time).toNat) :
    before.toNat + (count - 1) * second.epochLength.toNat < time.toNat := by
  rw [toNat_epochOf, toNat_epochOf, same] at apart
  generalize wide : max second.epochLength.toNat 1 = length at apart
  have positive : 0 < length := by omega
  calc before.toNat + (count - 1) * second.epochLength.toNat
      ≤ before.toNat + (count - 1) * length := by
        have bounded : second.epochLength.toNat ≤ length := by omega
        exact Nat.add_le_add_left (Nat.mul_le_mul_left _ bounded) _
    _ < length * (before.toNat / length + 1) + (count - 1) * length :=
        Nat.add_lt_add_right (Nat.lt_mul_div_succ _ positive) _
    _ = length * (before.toNat / length + count) := by
        obtain ⟨rest, rfl⟩ := Nat.exists_eq_add_of_le' counted
        rw [Nat.add_sub_cancel]
        ring
    _ ≤ length * (time.toNat / length) := Nat.mul_le_mul_left _ apart
    _ ≤ time.toNat := Nat.mul_div_le _ _

namespace Engine

/-! ### Calls that come too late -/

/-- The time of a feedback or a revocation on an entity. -/
def Call.timeOn? (entity : EntityId) : Call → Option UInt64
  | .ingest event => if event.entity = entity then some event.time else none
  | .revoke event => if event.entity = entity then some event.time else none
  | _ => none

/-- What was wrong with an event that was refused. -/
def Reply.fault? : Reply → Option InputFault
  | .ingested _ (.error (.validation fault)) => some fault
  | .revoked _ (.error (.validation fault)) => some fault
  | .responded _ (.error (.validation fault)) => some fault
  | _ => none

variable {engine : Engine} {hashing : Hashing} {config : Config} {entity : EntityId}
  {record : Record} {history : List Entry} {time last : UInt64}

theorem fault?_ingest {event : Feedback} {fault : InputFault} :
    (engine.call hashing (.ingest event)).2.reply.fault? = some fault ↔
      Record.ingest hashing engine.config (engine.record? event.entity) event =
        .error (.validation fault) := by
  show Reply.fault? (.ingested event (engine.applyIngest hashing event).answer) = _ ↔ _
  rw [applyIngest_eq]
  cases Record.ingest hashing engine.config (engine.record? event.entity) event with
  | error error => cases error <;> simp [reject, Reply.fault?]
  | ok ingested => simp [keepIngested, Reply.fault?]

theorem fault?_revoke {event : Revocation} {fault : InputFault} :
    (engine.call hashing (.revoke event)).2.reply.fault? = some fault ↔
      Record.revoke hashing engine.config (engine.record? event.entity) event =
        .error (.validation fault) := by
  show Reply.fault? (.revoked event (engine.applyRevoke hashing event).answer) = _ ↔ _
  rw [applyRevoke]
  cases Record.revoke hashing engine.config (engine.record? event.entity) event with
  | error error => cases error <;> simp [reject, Reply.fault?]
  | ok revoked => simp [keepRevoked, Reply.fault?]

/-- **An event that is refused as invalid leaves all but the counter of refused events alone.** -/
theorem call_of_fault {call : Call} {fault : InputFault} (about : call.timeOn? entity = some time)
    (refused : (engine.call hashing call).2.reply.fault? = some fault) :
    (engine.call hashing call).1 = { engine with metrics := engine.metrics.countRejected } := by
  cases call with
  | ingest event =>
    show (engine.applyIngest hashing event).engine = _
    rw [applyIngest_eq, fault?_ingest.mp refused]
    rfl
  | revoke event =>
    show (engine.applyRevoke hashing event).engine = _
    rw [applyRevoke, fault?_revoke.mp refused]
    rfl
  | respond | updateConfig => cases about

/-- **A call that is earlier than the last accepted feedback on its entity is refused.** -/
theorem call_late (hashing : Hashing) {call : Call}
    (about : call.timeOn? entity = some time) (known : engine.record? entity = some record)
    (late : time < record.lastSeen) :
    ∃ fault, (engine.call hashing call).2.reply.fault? = some fault := by
  cases call with
  | ingest event =>
    obtain ⟨rfl, same⟩ := Option.ite_none_right_eq_some.mp about
    cases same
    obtain ⟨fault, refused⟩ := Record.ingest_late hashing engine.config late
    exact ⟨fault, fault?_ingest.mpr (known ▸ refused)⟩
  | revoke event =>
    obtain ⟨rfl, same⟩ := Option.ite_none_right_eq_some.mp about
    cases same
    obtain ⟨fault, refused⟩ := Record.revoke_late hashing engine.config late
    exact ⟨fault, fault?_revoke.mpr (known ▸ refused)⟩
  | respond | updateConfig => cases about

/-- **No other feedback or revocation is refused for its time.** -/
theorem late_of_call {call : Call} {earlier : UInt64} (about : call.timeOn? entity = some time)
    (refused : (engine.call hashing call).2.reply.fault? = some (.timeBackwards earlier last)) :
    earlier = time ∧ ∃ record, engine.record? entity = some record ∧ record.lastSeen = last ∧
      time < last := by
  cases call with
  | ingest event =>
    obtain ⟨rfl, same⟩ := Option.ite_none_right_eq_some.mp about
    cases same
    obtain ⟨rfl, late⟩ := Record.late_of_ingest (fault?_ingest.mp refused)
    exact ⟨rfl, late⟩
  | revoke event =>
    obtain ⟨rfl, same⟩ := Option.ite_none_right_eq_some.mp about
    cases same
    obtain ⟨rfl, late⟩ := Record.late_of_revoke (fault?_revoke.mp refused)
    exact ⟨rfl, late⟩
  | respond | updateConfig => cases about

/-! ### Runs -/

/-- When a feedback on an entity was accepted. -/
def Reply.acceptedAt? (entity : EntityId) : Reply → Option UInt64
  | .ingested event (.ok _) => if event.entity = entity then some event.time else none
  | _ => none

/-- When the record of an entity was scored: by an accepted feedback or by a revocation with
impact. -/
def Reply.scoredAt? (entity : EntityId) : Reply → Option UInt64
  | .ingested event (.ok _) => if event.entity = entity then some event.time else none
  | .revoked event (.ok result) =>
    if result.hadImpact && event.entity = entity then some event.time else none
  | _ => none

theorem acceptedAt?_of_still {reply : Reply} (still : reply.changes entity = false) :
    reply.acceptedAt? entity = none := by
  rcases reply with ⟨event, _ | result⟩ | ⟨event, answer⟩ | ⟨event, answer⟩ | ⟨config, answer⟩
  case ingested.ok => exact if_neg (of_decide_eq_false still)
  all_goals rfl

theorem scoredAt?_of_still {reply : Reply} (still : reply.changes entity = false) :
    reply.scoredAt? entity = none := by
  rcases reply with ⟨event, _ | result⟩ | ⟨event, _ | result⟩ | ⟨event, answer⟩ | ⟨config, answer⟩
  case ingested.ok => exact if_neg (of_decide_eq_false still)
  case revoked.ok => exact if_neg (Bool.eq_false_iff.mp still)
  all_goals rfl

/-- Whether no entry of a history is earlier, by the second times, than an entry before it, by the
first times. -/
def InOrder (first second : Reply → Option UInt64) (history : List Entry) : Prop :=
  history.Pairwise fun past entry =>
    ∀ before ∈ first past.reply, ∀ time ∈ second entry.reply, before ≤ time

/-- The record of an entity, if there is one, knows the time of the last accepted feedback, which is
the latest of them, and nothing was scored that was earlier than a feedback accepted before it. -/
structure Dated (entity : EntityId) (history : List Entry) (current : Option Record) : Prop where
  latest : ∀ entry ∈ history, ∀ time ∈ entry.reply.acceptedAt? entity,
    ∃ record, current = some record ∧ time ≤ record.lastSeen
  attained : ∀ record, current = some record →
    ∃ entry ∈ history, entry.reply.acceptedAt? entity = some record.lastSeen
  order : InOrder (Reply.acceptedAt? entity) (Reply.scoredAt? entity) history

theorem InOrder.concat {first second : Reply → Option UInt64} {entry : Entry}
    (order : InOrder first second history)
    (later : ∀ past ∈ history, ∀ before ∈ first past.reply, ∀ time ∈ second entry.reply,
      before ≤ time) :
    InOrder first second (history ++ [entry]) :=
  List.pairwise_append.mpr ⟨order, List.pairwise_singleton _ _,
    fun past member _ here => List.mem_singleton.mp here ▸ later past member⟩

/-- What is scored no earlier than the record was last fed is no earlier than any feedback accepted
before. -/
theorem Dated.order_concat {current : Option Record} {reply : Reply}
    (dated : Dated entity history current)
    (later : ∀ time ∈ reply.scoredAt? entity, ∀ record, current = some record →
      record.lastSeen ≤ time) :
    InOrder (Reply.acceptedAt? entity) (Reply.scoredAt? entity)
      (history ++ [⟨config, reply⟩]) := by
  refine dated.order.concat fun past member before accepted time scored => ?_
  obtain ⟨record, known, early⟩ := dated.latest past member before accepted
  exact UInt64.le_trans early (later time scored record known)

/-- An event other than an accepted feedback leaves the time of the last one alone. -/
theorem Dated.other {before after : Option Record} {reply : Reply}
    (dated : Dated entity history before) (unaccepted : reply.acceptedAt? entity = none)
    (same : after.map (·.lastSeen) = before.map (·.lastSeen))
    (later : ∀ time ∈ reply.scoredAt? entity, ∀ record, before = some record →
      record.lastSeen ≤ time) :
    Dated entity (history ++ [⟨config, reply⟩]) after where
  latest entry member time accepted := by
    rcases List.mem_append.mp member with past | here
    · obtain ⟨record, rfl, early⟩ := dated.latest entry past time accepted
      obtain ⟨next, rfl, kept⟩ := Option.map_eq_some_iff.mp same
      exact ⟨next, rfl, kept ▸ early⟩
    · cases List.mem_singleton.mp here
      cases unaccepted.symm.trans accepted
  attained record known := by
    subst known
    obtain ⟨held, known, kept⟩ := Option.map_eq_some_iff.mp same.symm
    obtain ⟨entry, member, accepted⟩ := dated.attained held known
    exact ⟨entry, List.mem_append_left _ member, accepted.trans (congrArg some kept)⟩
  order := dated.order_concat later

/-- An accepted feedback on an entity leaves its own time. -/
theorem Dated.accepted {before : Option Record} {after : Record} {reply : Reply}
    (dated : Dated entity history before)
    (accepted : reply.acceptedAt? entity = some after.lastSeen)
    (scored : reply.scoredAt? entity = some after.lastSeen)
    (later : ∀ record, before = some record → record.lastSeen ≤ after.lastSeen) :
    Dated entity (history ++ [⟨config, reply⟩]) (some after) where
  latest entry member time earlier := by
    refine ⟨after, rfl, ?_⟩
    rcases List.mem_append.mp member with past | here
    · obtain ⟨record, known, early⟩ := dated.latest entry past time earlier
      exact UInt64.le_trans early (later record known)
    · cases List.mem_singleton.mp here
      cases accepted.symm.trans earlier
      exact UInt64.le_refl _
  attained record known := by
    cases known
    exact ⟨_, List.mem_append_right _ (List.mem_singleton_self _), accepted⟩
  order := dated.order_concat fun time here record known => by
    cases scored.symm.trans here
    exact later record known

/-- **Every effect leaves the record with the time of the last accepted feedback.** -/
theorem Dated.step {before after : Option Record} {reply : Reply}
    (dated : Dated entity history before)
    (effect : Effect hashing config entity before reply after) :
    Dated entity (history ++ [⟨config, reply⟩]) after := by
  cases effect with
  | kept still =>
    refine dated.other (acceptedAt?_of_still still) rfl fun time scored => ?_
    cases (scoredAt?_of_still still).symm.trans scored
  | ingested about checked entered room =>
    refine dated.accepted (if_pos about) (if_pos about) fun record known => ?_
    -- A record that was there before was opened no earlier than its last time.
    rcases Record.opened_eq_ok.mp entered with ⟨held, timely⟩ | ⟨absent, -⟩
    · cases known.symm.trans held
      exact timely
    · cases known.symm.trans absent
  | revoked about checked timely found room settles =>
    subst settles
    refine dated.other rfl rfl fun time scored record known => ?_
    cases known
    obtain ⟨-, same⟩ := Option.ite_none_right_eq_some.mp scored
    cases same
    exact timely
  | responded => exact dated.other rfl rfl fun time scored => by cases scored

/-- **After every run, a record knows the time of the last accepted feedback.** -/
theorem dated_of_run (hashing : Hashing) (config : Config) (calls : List Call)
    (entity : EntityId) :
    Dated entity ((system hashing config).history calls)
      (((system hashing config).final calls).record? entity) := by
  have opening : Dated entity [] none :=
    { latest := fun _ absent => (List.not_mem_nil absent).elim
      attained := fun _ absent => by cases absent
      order := .nil }
  exact record_invariant (fun _ => True) (Dated entity) trivial (fun _ _ => trivial) opening
    (fun _ _ _ _ _ dated _ effect => dated.step effect) calls

/-- **What comes before an accepted feedback is refused.** Take any run and any entity. A feedback
or a revocation that is scored is no earlier than any feedback accepted before it, nor is its epoch
under any policy. After the run, a feedback or a revocation on the entity that is earlier than some
accepted feedback is refused as invalid, and nothing but the counter of refused events changes. It
is called backwards in time only if there is an accepted feedback later than it, the one that it is
reported to be held against. -/
theorem ordered_by_feedbacks (hashing : Hashing) (config : Config) (calls : List Call)
    (entity : EntityId) :
    let history := (system hashing config).history calls
    let engine := (system hashing config).final calls
    (history.Pairwise fun past entry =>
      ∀ before ∈ past.reply.acceptedAt? entity, ∀ time ∈ entry.reply.scoredAt? entity,
        before ≤ time ∧ ∀ policy : TierPolicy, policy.epochOf before ≤ policy.epochOf time) ∧
    ∀ call time, call.timeOn? entity = some time →
      ((∃ entry ∈ history, ∃ accepted ∈ entry.reply.acceptedAt? entity, time < accepted) →
        (∃ fault, (engine.call hashing call).2.reply.fault? = some fault) ∧
          (engine.call hashing call).1 = { engine with metrics := engine.metrics.countRejected }) ∧
      ∀ earlier last,
        (engine.call hashing call).2.reply.fault? = some (.timeBackwards earlier last) →
          earlier = time ∧ time < last ∧
            ∃ entry ∈ history, entry.reply.acceptedAt? entity = some last := by
  intro history engine
  have dated : Dated entity history (engine.record? entity) :=
    dated_of_run hashing config calls entity
  refine ⟨dated.order.imp fun ordered before accepted time scored => ?_,
    fun call time about => ⟨?_, fun earlier last refused => ?_⟩⟩
  · have timely := ordered before accepted time scored
    exact ⟨timely, fun policy => policy.epochOf_mono timely⟩
  · rintro ⟨entry, member, accepted, held, late⟩
    obtain ⟨record, known, early⟩ := dated.latest entry member accepted held
    obtain ⟨fault, refused⟩ := call_late hashing about known
      (UInt64.lt_of_lt_of_le late early)
    exact ⟨⟨fault, refused⟩, call_of_fault about refused⟩
  · obtain ⟨rfl, record, known, rfl, late⟩ := late_of_call about refused
    exact ⟨rfl, late, dated.attained record known⟩

/-- A feedback, its revocation much later, and a feedback from the time between. -/
def overtaken : List Call :=
  [rating 1 80 0, .revoke ⟨⟨1⟩, ⟨.ofSeed 1⟩, 1, 100, ⟨.fill 0⟩⟩, rating 2 90 50]

/-- **A revocation holds back nothing.** The last feedback is accepted although it is older than the
revocation before it, and the record is scored in an earlier epoch than before. -/
theorem feedback_before_revocation :
    lenient.check = .ok () ∧
    ((system summing lenient).history overtaken).map (·.reply.scoredAt? ⟨1⟩) =
      [some 0, some 100, some 50] ∧
    ¬ InOrder (Reply.scoredAt? ⟨1⟩) (Reply.scoredAt? ⟨1⟩)
      ((system summing lenient).history overtaken) ∧
    lenient.tiers.epochOf 50 < lenient.tiers.epochOf 100 := by
  have times : ((system summing lenient).history overtaken).map (·.reply.scoredAt? ⟨1⟩) =
      [some 0, some 100, some 50] := by decide +kernel
  refine ⟨by decide, times, fun order => ?_, by decide⟩
  have ordered : [some (0 : UInt64), some 100, some 50].Pairwise fun first second =>
      ∀ before ∈ first, ∀ time ∈ second, before ≤ time := by
    rw [← times, List.pairwise_map]
    exact order
  obtain ⟨-, further⟩ := List.pairwise_cons.mp ordered
  have backwards : (100 : UInt64) ≤ 50 :=
    (List.pairwise_cons.mp further).1 (some 50) List.mem_cons_self 100 rfl 50 rfl
  exact absurd backwards (by decide)

end Engine

end Reputation
