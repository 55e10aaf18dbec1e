/-
**A feedback is revoked once.**

The books of an entity hold a posting for each accepted feedback, the latest first. A revocation
with impact strikes the latest posting of its rater under its sequence index. A slot that was written
over is not marked any more, but it answers for another posting then, so no posting is struck twice.

The counters tell the same: what was revoked, together with what can still be revoked, is no more
than what was accepted. A feedback adds to what was accepted and to at most one live slot, whatever
it writes over; a revocation takes a live slot for each that it counts.

* `Posting`, `strike`, `ledger`: the books, by the history alone.
* `Balanced`: a record against its books.
* `Balanced.written`, `Balanced.struck`: a feedback and a revocation keep them balanced.
* `Balanced.room`: where something can be revoked there is room to count it.
* **`revoked_once`**: the books of every run.
-/

import Reputation.Proofs.Engine.Accounts
import Reputation.Proofs.Engine.Time
import Reputation.Proofs.Recency.Live

namespace Reputation

/-! ### Books -/

/-- An accepted feedback in the books. -/
structure Posting where
  rater : Fingerprint
  sequence : UInt64
  /-- How often it was revoked with impact. -/
  strikes : Nat

/-- Strikes the latest posting of a rater under a sequence index. -/
def strike (rater : Fingerprint) (sequence : UInt64) : List Posting → List Posting
  | [] => []
  | posting :: older =>
    if posting.rater = rater ∧ posting.sequence = sequence then
      { posting with strikes := posting.strikes + 1 } :: older
    else posting :: strike rater sequence older

/-- The latest posting of a rater. -/
def latest? (rater : Fingerprint) (postings : List Posting) : Option Posting :=
  postings.find? (·.rater = rater)

section Striking

variable {rater other : Fingerprint} {postings : List Posting} {posting : Posting}

/-- The latest posting of a rater has none of the same rater after it. -/
theorem latest?_eq_some : latest? rater postings = some posting ↔
    posting.rater = rater ∧ ∃ newer older, postings = newer ++ posting :: older ∧
      ∀ later ∈ newer, later.rater ≠ rater := by
  simp [latest?, List.find?_eq_some_iff_append]

/-- **Only the latest posting is struck.** -/
theorem strike_append {newer : List Posting} (older : List Posting)
    (others : ∀ later ∈ newer, later.rater ≠ posting.rater) :
    strike posting.rater posting.sequence (newer ++ posting :: older) =
      newer ++ { posting with strikes := posting.strikes + 1 } :: older := by
  induction newer with
  | nil => exact if_pos ⟨rfl, rfl⟩
  | cons first rest ih =>
    obtain ⟨differs, others⟩ := List.forall_mem_cons.mp others
    rw [List.cons_append, strike, if_neg fun same => differs same.1, ih others, List.cons_append]

theorem latest?_strike_of_ne (apart : other ≠ rater) (sequence : UInt64)
    (postings : List Posting) :
    latest? other (strike rater sequence postings) = latest? other postings := by
  induction postings with
  | nil => rfl
  | cons posting older ih =>
    unfold latest? at ih ⊢
    rw [strike]
    split
    · rename_i here
      have passed : posting.rater ≠ other := fun same => apart (same.symm.trans here.1)
      simp [passed]
    · rw [List.find?_cons, List.find?_cons, ih]

end Striking

namespace Engine

/-- The books of an entity after a reply. -/
def Reply.post (hashing : Hashing) (salt : UInt64) (entity : EntityId) (postings : List Posting) :
    Reply → List Posting
  | .ingested event (.ok _) =>
    if event.entity = entity then
      ⟨.of hashing salt event.entity event.rater, event.sequence, 0⟩ :: postings
    else postings
  | .revoked event (.ok result) =>
    if result.hadImpact && event.entity = entity then
      strike (.of hashing salt event.entity event.rater) event.sequence postings
    else postings
  | _ => postings

/-- The books of an entity, the latest posting first. Raters go by their fingerprints under the
given salt. -/
def ledger (hashing : Hashing) (salt : UInt64) (entity : EntityId) (history : List Entry) :
    List Posting :=
  history.foldl (fun postings entry => entry.reply.post hashing salt entity postings) []

variable {hashing : Hashing} {config : Config} {entity : EntityId} {history : List Entry}
  {salt : UInt64} {postings : List Posting} {record after : Record} {next : Recency}

@[simp] theorem ledger_concat (entry : Entry) :
    ledger hashing salt entity (history ++ [entry]) =
      entry.reply.post hashing salt entity (ledger hashing salt entity history) :=
  List.foldl_append

theorem post_of_still {reply : Reply} (still : reply.changes entity = false) :
    reply.post hashing salt entity postings = postings := by
  rcases reply with ⟨event, _ | result⟩ | ⟨event, _ | result⟩ | ⟨event, answer⟩ | ⟨config, answer⟩
  case ingested.ok => exact if_neg (of_decide_eq_false still)
  case revoked.ok => exact if_neg (Bool.eq_false_iff.mp still)
  all_goals rfl

theorem post_ingested {event : Feedback} {result : UpdateResult} (about : event.entity = entity) :
    Reply.post hashing salt entity postings (.ingested event (.ok result)) =
      ⟨.of hashing salt event.entity event.rater, event.sequence, 0⟩ :: postings :=
  if_pos about

theorem post_struck {event : Revocation} {result : RevokeResult} (about : event.entity = entity)
    (impact : result.hadImpact = true) :
    Reply.post hashing salt entity postings (.revoked event (.ok result)) =
      strike (.of hashing salt event.entity event.rater) event.sequence postings :=
  if_pos (by simp [impact, about])

/-! ### A record against its books -/

/-- A record agrees with its books. -/
structure Balanced (postings : List Posting) (record : Record) : Prop where
  distinct : record.recency.Distinct
  /-- A slot stands for the latest posting of its rater, and is marked if that was struck. -/
  latest : ∀ location slot, record.recency.slot? location = some slot →
    ∃ posting, latest? slot.fingerprint postings = some posting ∧
      posting.sequence = slot.sequence ∧ posting.strikes = slot.revoked.toNat
  once : ∀ posting ∈ postings, posting.strikes ≤ 1
  accepted : postings.length = record.feedbackCount.toNat
  struck : (postings.map (·.strikes)).sum = record.revokedCount.toNat
  live : record.revokedCount.toNat + record.recency.liveCount ≤ record.feedbackCount.toNat

theorem balanced_empty (entity : EntityId) (salt firstSeen : UInt64) :
    Balanced [] (.empty entity salt firstSeen) where
  distinct := Recency.distinct_empty firstSeen
  latest location slot holds := by cases (Recency.slot?_empty firstSeen location).symm.trans holds
  once _ absent := (List.not_mem_nil absent).elim
  accepted := rfl
  struck := rfl
  live := by simp [Record.empty]

/-- **A feedback keeps the books balanced.** It is posted, and its slot stands for it. -/
theorem Balanced.written {policy : RingPolicy} {fresh : Slot} {outcome : WriteOutcome}
    (balanced : Balanced postings record) (unmarked : fresh.revoked = false)
    (case : Recency.WriteCase record.recency policy fresh next outcome)
    (moved : after.recency = next)
    (fed : after.feedbackCount.toNat = record.feedbackCount.toNat + 1)
    (same : after.revokedCount = record.revokedCount) :
    Balanced (⟨fresh.fingerprint, fresh.sequence, 0⟩ :: postings) after where
  distinct := moved ▸ case.distinct balanced.distinct
  latest location slot holds := by
    rw [moved] at holds
    obtain ⟨place, puts, owns⟩ := case.puts
    rcases puts.held (owns balanced.distinct) holds with ⟨-, rfl⟩ | ⟨-, held, differs⟩
    · exact ⟨_, List.find?_cons_of_pos (decide_eq_true rfl), rfl, by rw [unmarked]; rfl⟩
    · obtain ⟨posting, latest, stands⟩ := balanced.latest location slot held
      refine ⟨posting, ?_, stands⟩
      rw [latest?, List.find?_cons_of_neg (by simpa using Ne.symm differs)]
      exact latest
  once posting member := by
    rcases List.mem_cons.mp member with rfl | older
    exacts [Nat.zero_le 1, balanced.once posting older]
  accepted := by rw [List.length_cons, balanced.accepted, fed]
  struck := by rw [List.map_cons, List.sum_cons, balanced.struck, same, Nat.zero_add]
  live := by
    have more := case.liveCount_le
    have before := balanced.live
    rw [moved, fed, same]
    omega

/-- **Where something can be revoked there is room to count it.** -/
theorem Balanced.room {fingerprint : Fingerprint} {sequence : UInt64} {score : UInt8}
    {location : Location} (balanced : Balanced postings record)
    (case : Recency.RevokeCase record.recency fingerprint sequence next
      (.revoked score location)) : Record.HasRoom record.revokedCount := by
  have live := case.liveCount_struck
  have before := balanced.live
  have bound := record.feedbackCount.toNat_lt
  unfold Record.HasRoom
  omega

/-- **A revocation with impact keeps the books balanced.** The posting that is struck was not struck
before, since its slot was not marked. -/
theorem Balanced.struckOff {fingerprint : Fingerprint} {sequence : UInt64} {score : UInt8}
    {location : Location} (balanced : Balanced postings record)
    (case : Recency.RevokeCase record.recency fingerprint sequence next (.revoked score location))
    (moved : after.recency = next) (same : after.feedbackCount = record.feedbackCount)
    (counted : after.revokedCount.toNat = record.revokedCount.toNat + 1) :
    Balanced (strike fingerprint sequence postings) after := by
  have distinct := case.distinct balanced.distinct
  have fewer := case.liveCount_struck
  cases case with
  | @struck _ slot found holds names unmarked =>
    obtain ⟨posting, latest, named, strikes⟩ := balanced.latest location slot holds
    obtain rfl : slot.fingerprint = fingerprint := Recency.fingerprint_of_find? found holds
    obtain ⟨own, newer, older, rfl, others⟩ := latest?_eq_some.mp latest
    rw [unmarked] at strikes
    have after_strike : strike slot.fingerprint sequence (newer ++ posting :: older) =
        newer ++ { posting with strikes := 1 } :: older := by
      rw [← own, ← names, ← named, strike_append older (own ▸ others), strikes]
      rfl
    refine ⟨moved ▸ distinct, fun place held holdsAfter => ?_, fun struck member => ?_, ?_, ?_, ?_⟩
    · rw [moved] at holdsAfter
      have puts := Recency.setSlot_puts record.recency { slot with revoked := true } location
      rcases puts.held (balanced.distinct location slot holds) holdsAfter with
        ⟨-, rfl⟩ | ⟨-, before, apart⟩
      · rw [after_strike]
        exact ⟨{ posting with strikes := 1 },
          latest?_eq_some.mpr ⟨own, newer, older, rfl, others⟩, named, rfl⟩
      · rw [latest?_strike_of_ne apart]
        exact balanced.latest place held before
    · rw [after_strike] at member
      rcases List.mem_append.mp member with newer | here
      · exact balanced.once struck (List.mem_append_left _ newer)
      · rcases List.mem_cons.mp here with rfl | older
        · exact Nat.le_refl 1
        · exact balanced.once struck (List.mem_append_right _ (List.mem_cons_of_mem _ older))
    · have length := balanced.accepted
      rw [after_strike, same, ← length]
      simp
    · have sum := balanced.struck
      rw [after_strike, counted, ← sum]
      simp [strikes]
      omega
    · have before := balanced.live
      rw [moved, same, counted]
      omega

/-! ### Runs -/

/-- The record of an entity, if there is one, agrees with its books. -/
def InBalance (hashing : Hashing) (entity : EntityId) (history : List Entry) :
    Option Record → Prop
  | none => ∀ salt, ledger hashing salt entity history = []
  | some record => Balanced (ledger hashing record.salt entity history) record

/-- The record that a feedback is taken into agrees with its books. -/
theorem InBalance.opened {current : Option Record} {event : Feedback}
    (balance : InBalance hashing entity history current)
    (entered : Record.opened hashing current event = .ok record) :
    Balanced (ledger hashing record.salt entity history) record := by
  rcases Record.opened_eq_ok.mp entered with ⟨rfl, -⟩ | ⟨rfl, rfl⟩
  · exact balance
  · rw [balance]
    exact balanced_empty _ _ _

/-- **Every effect keeps a record in agreement with its books.** -/
theorem InBalance.step {before after : Option Record} {reply : Reply}
    (balance : InBalance hashing entity history before)
    (effect : Effect hashing config entity before reply after) :
    InBalance hashing entity (history ++ [⟨config, reply⟩]) after := by
  cases effect with
  | kept still =>
    cases before with
    | none =>
      intro salt
      rw [ledger_concat, post_of_still still]
      exact balance salt
    | some record =>
      show Balanced _ record
      rw [ledger_concat, post_of_still still]
      exact balance
  | @ingested _ record event about checked entered room =>
    obtain ⟨outcome, case⟩ := Record.noted_recency record hashing config event
    show Balanced _ (record.takeIn hashing config event).record
    rw [ledger_concat, post_ingested about]
    exact (balance.opened entered).written rfl case rfl room.feedback.toNat_add_one rfl
  | @revoked record recency event score location after about checked timely found room settles =>
    subst settles
    show Balanced _ ({ record with recency }.settled hashing config event score).1
    rw [ledger_concat, post_struck about rfl]
    exact Balanced.struckOff balance (Record.lookUp_case found) rfl rfl room.toNat_add_one
  | @responded record event =>
    show Balanced (ledger hashing record.salt entity _) _
    rw [ledger_concat]
    exact { balance with }

/-- **No revocation is refused because the counter of revocations is full.** -/
theorem InBalance.not_full {current : Option Record}
    (balance : InBalance hashing entity history current) (config : Config) (event : Revocation) :
    Record.revoke hashing config current event ≠ .error (.overflow .revoked) := by
  intro refused
  cases Record.revoke_refusal refused with
  | malformed failed => obtain ⟨_, ⟨⟩, -⟩ := Record.fault_of_checkSequence failed
  | full found full => exact full (Balanced.room balance (Record.lookUp_case found))

theorem applyRevoke_eq_error {engine : Engine} {event : Revocation} {error : Error} :
    (engine.applyRevoke hashing event).answer = .error error ↔
      Record.revoke hashing engine.config (engine.record? event.entity) event = .error error := by
  rw [applyRevoke]
  cases Record.revoke hashing engine.config (engine.record? event.entity) event with
  | error _ => simp [reject]
  | ok revoked => simp [keepRevoked]

/-- **A feedback is revoked once.** Take any run of feedbacks, revocations, responses and new
configurations, with a configuration of its own for every call, within bounds or not, under any hash
function, and any entity. Without a record, nothing on the entity was accepted. Otherwise the record
counts its accepted feedbacks and its revocations with impact, and what was revoked together with
the slots that can still be revoked is no more than what was accepted. Each accepted feedback was
revoked with impact at most once, and each revocation with impact revoked one. No revocation is ever
refused because the counter of revocations is full. -/
theorem revoked_once (hashing : Hashing) (asked : List Asked) (entity : EntityId) :
    let history := (freely hashing).history asked
    let current := ((freely hashing).final asked).record? entity
    (current = none → ∀ kind, leaves kind entity history = []) ∧
      (∀ record, current = some record →
        record.feedbackCount.toNat = (leaves .feedback entity history).length ∧
        record.revokedCount.toNat = (leaves .revocation entity history).length ∧
        record.revokedCount.toNat + record.recency.liveCount ≤ record.feedbackCount.toNat ∧
        record.revokedCount ≤ record.feedbackCount ∧
        let postings := ledger hashing record.salt entity history
        (∀ posting ∈ postings, posting.strikes ≤ 1) ∧
          postings.length = record.feedbackCount.toNat ∧
          (postings.map (·.strikes)).sum = record.revokedCount.toNat) ∧
      ∀ entry ∈ history, ∀ event,
        entry.reply ≠ .revoked event (.error (.overflow .revoked)) := by
  intro history current
  have counted : Counted entity history current :=
    free_invariant (Counted entity) (fun _ => rfl)
      (fun _ _ _ _ _ counted effect => counted.step effect) asked
  have balanced (asked : List Asked) (entity : EntityId) :
      InBalance hashing entity ((freely hashing).history asked)
        (((freely hashing).final asked).record? entity) :=
    free_invariant (InBalance hashing entity) (fun _ => rfl)
      (fun _ _ _ _ _ balance effect => balance.step effect) asked
  refine ⟨fun absent => ?_, fun record known => ?_, fun entry member event full => ?_⟩
  · rw [absent] at counted
    exact counted
  · have balance := balanced asked entity
    rw [show ((freely hashing).final asked).record? entity = some record from known] at balance
    rw [known] at counted
    exact ⟨counted .feedback, counted .revocation, balance.live,
      UInt32.le_iff_toNat_le.mpr (Nat.le_trans (Nat.le_add_right _ _) balance.live),
      balance.once, balance.accepted, balance.struck⟩
  · obtain ⟨earlier, later, split⟩ := List.append_of_mem member
    obtain ⟨before, ⟨config, call⟩, after, -, -, made⟩ := (freely hashing).split_history split
    rw [made] at full
    cases call with
    | ingest | respond | updateConfig => cases full
    | revoke named =>
      obtain ⟨rfl, failed⟩ := Reply.revoked.inj full
      exact (balanced before named.entity).not_full config named (applyRevoke_eq_error.mp failed)

end Engine

end Reputation
