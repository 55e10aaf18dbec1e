/-
**The records that an engine can hold.**

An engine holds records that were opened empty, read from bytes, or made of a held one by an event
that was accepted under a configuration within bounds. All of them fit into their frames, and so
all of them come back from their bytes.

* `Storable.takeIn`, `Storable.settled`, `Storable.answered`: what each event keeps.
* `Reachable.storable`: what holds of every record that an engine can hold.
* `faithful_bytes`: which records come back from their bytes, and which bytes are a record.
-/

import Reputation.Hash.Blake3
import Reputation.Proofs.Config.Bounds
import Reputation.Proofs.Engine.Run
import Reputation.Proofs.Record.Reading
import Reputation.Proofs.Record.Update

namespace Reputation

/-! ### Recent raters -/

namespace Recency

variable {recency next : Recency} {fresh : Slot} {location : Location}

theorem storable_empty (windowStart : UInt64) : (empty windowStart).Storable := by
  refine ⟨fun location slot holds => ?_, Nat.zero_le _⟩
  rw [slot?_empty] at holds
  cases holds

theorem Puts.storable (puts : Puts recency fresh location next) (fits : fresh.Storable)
    (slots : ∀ location slot, recency.slot? location = some slot → slot.Storable) :
    ∀ location slot, next.slot? location = some slot → slot.Storable := by
  intro other slot holds
  rw [puts other] at holds
  split at holds
  · exact Option.some.inj holds ▸ fits
  · exact slots other slot holds

theorem WriteCase.windowCount_le {policy : RingPolicy} {outcome : WriteOutcome}
    (case : WriteCase recency policy fresh next outcome)
    (within : policy.bypassLimit.toNat ≤ bypassCapacity)
    (narrow : recency.windowCount.toNat ≤ bypassCapacity) :
    next.windowCount.toNat ≤ bypassCapacity := by
  cases case with
  | overwritten =>
    rw [setSlot_windowCount]
    exact narrow
  | inserted | forced => exact narrow
  | elapsed => exact Nat.zero_le _
  | passed absent full lasting room =>
    have below : recency.windowCount.toNat < policy.bypassLimit.toNat := by
      simpa [bypassExhausted, UInt8.lt_iff_toNat_lt] using room
    refine Nat.le_trans (Nat.mod_le _ _) ?_
    omega

/-- **A write keeps what is remembered fit for its frame.** -/
theorem WriteCase.storable {policy : RingPolicy} {outcome : WriteOutcome}
    (case : WriteCase recency policy fresh next outcome) (storable : recency.Storable)
    (fits : fresh.Storable) (within : policy.bypassLimit.toNat ≤ bypassCapacity) :
    next.Storable := by
  obtain ⟨location, puts, -⟩ := case.puts
  exact ⟨puts.storable fits storable.slots, case.windowCount_le within storable.windowCount⟩

/-- **A revocation keeps what is remembered fit for its frame.** -/
theorem RevokeCase.storable {fingerprint : Fingerprint} {sequence : UInt64} {lookup : RevokeLookup}
    (case : RevokeCase recency fingerprint sequence next lookup) (storable : recency.Storable) :
    next.Storable := by
  cases case with
  | absent | stale | repeated => exact storable
  | @struck location slot found holds =>
    have puts := setSlot_puts recency { slot with revoked := true } location
    have fits := storable.slots location slot holds
    refine ⟨puts.storable ⟨fits.fingerprint, fits.score⟩ storable.slots, ?_⟩
    rw [setSlot_windowCount]
    exact storable.windowCount

end Recency

/-! ### Scores that are kept -/

theorem Feedback.score_le_of_check {event : Feedback} {result : Unit}
    (checked : event.check = .ok result) : event.score.toNat ≤ scoreMax := by
  unfold check at checked
  split at checked
  · cases checked
  · rename_i low
    exact Nat.le_of_not_lt low

theorem qualityOf_le (fast slow : UInt32) (confidence : UInt8) (policy : ConfidencePolicy) :
    (qualityOf fast slow confidence policy).toNat ≤ qualityMax :=
  Nat.le_trans (Nat.mod_le _ _) (Nat.min_le_right _ _)

theorem riskOf_le (inputs : RiskInputs) (policy : RiskPolicy) (samples : UInt32) :
    (riskOf inputs policy samples).toNat ≤ riskMax :=
  Nat.le_trans (Nat.mod_le _ _) (Nat.min_le_right _ _)

theorem confidenceOf_le (inputs : ConfidenceInputs) (policy : ConfidencePolicy) :
    (confidenceOf inputs policy).toNat ≤ confidenceMax :=
  Nat.le_trans (Nat.mod_le _ _) (Nat.min_le_right _ _)

namespace Record

variable {record : Record} {hashing : Hashing} {config : Config}

/-- The four scores that are kept of the feedbacks are in range. -/
def ScoresInRange (record : Record) : Prop :=
  ∀ score ∈ [record.minScore, record.maxScore, record.firstScore, record.lastScore],
    score.toNat ≤ scoreMax

/-- **Scoring brings quality, risk and confidence in range.** -/
theorem Storable.rescore (recency : record.recency.Storable) (scores : record.ScoresInRange)
    (epoch : UInt64) (config : Config) : (record.rescore epoch config).1.Storable := by
  obtain ⟨tier, -, scored⟩ := record.rescore_cases epoch config
  rw [scored]
  exact ⟨recency, BooksFrame.inRange_iff.mpr
    ⟨scores, qualityOf_le _ _ _ _, riskOf_le _ _ _, confidenceOf_le _ _⟩⟩

theorem ScoresInRange.booked (scores : record.ScoresInRange) {score : UInt8}
    (low : score.toNat ≤ scoreMax) (time epoch : UInt64) :
    (record.booked score time epoch).ScoresInRange := by
  have choice (taken : Bool) {old : UInt8} (inRange : old.toNat ≤ scoreMax) :
      (if taken = true then score else old).toNat ≤ scoreMax := by
    split
    · exact low
    · exact inRange
  simp only [ScoresInRange, List.forall_mem_cons] at scores ⊢
  obtain ⟨lowest, highest, first, -, none⟩ := scores
  exact ⟨choice _ lowest, choice _ highest, choice _ first, low, none⟩

theorem Storable.scores (storable : record.Storable) : record.ScoresInRange :=
  (BooksFrame.inRange_iff.mp storable.books).1

/-- The heads are no part of what has to fit. -/
theorem Storable.withHeads (storable : record.Storable) (heads : Heads) :
    { record with heads }.Storable :=
  ⟨storable.recency, storable.books⟩

/-! ### Events -/

theorem storable_empty (entity : EntityId) (salt firstSeen : UInt64) :
    (empty entity salt firstSeen).Storable :=
  ⟨Recency.storable_empty firstSeen, rfl⟩

/-- **A feedback keeps a record fit for its frame.** -/
theorem Storable.takeIn (storable : record.Storable) (hashing : Hashing)
    (within : config.check = .ok ()) {event : Feedback} (checked : event.check = .ok ()) :
    (record.takeIn hashing config event).record.Storable := by
  have low := Feedback.score_le_of_check checked
  have capacity := RingPolicy.bypassLimit_le_of_check (Config.check_eq_ok.mp within).1
  obtain ⟨outcome, case⟩ := record.noted_recency hashing config event
  have recency := case.storable storable.recency ⟨Fingerprint.value_ofWord_lt _, low⟩ capacity
  have scores : (record.noted hashing config event).ScoresInRange :=
    ScoresInRange.booked storable.scores low event.time (config.tiers.epochOf event.time)
  rw [record_takeIn]
  exact (Storable.rescore recency scores _ config).withHeads _

/-- **A revocation keeps a record fit for its frame.** -/
theorem Storable.settled (storable : record.Storable) (hashing : Hashing) (config : Config)
    (event : Revocation) (score : UInt8) :
    (record.settled hashing config event score).1.Storable := by
  have corrected : (record.corrected config score).Storable := ⟨storable.recency, storable.books⟩
  rw [record_settled]
  exact (Storable.rescore corrected.recency corrected.scores _ config).withHeads _

/-- **A response keeps a record fit for its frame.** -/
theorem Storable.answered (storable : record.Storable) (hashing : Hashing) (event : Response) :
    (record.answered hashing event).record.Storable :=
  ⟨storable.recency, storable.books⟩

/-! ### Runs -/

/-- The records that an engine can hold. -/
inductive Reachable (hashing : Hashing) : Record → Prop
  /-- A record is opened empty. -/
  | opened (entity : EntityId) (salt firstSeen : UInt64) :
      Reachable hashing (empty entity salt firstSeen)
  /-- A record is read from bytes. -/
  | read {bytes : List UInt8} {record : Record} (accepted : decode bytes = .ok record) :
      Reachable hashing record
  /-- A feedback is accepted, on a held record or on an entity without one. -/
  | ingested {config : Config} {current : Option Record} {event : Feedback} {ingested : Ingested}
      (within : config.check = .ok ())
      (held : ∀ record, current = some record → Reachable hashing record)
      (accepted : ingest hashing config current event = .ok ingested) :
      Reachable hashing ingested.record
  /-- A remembered feedback is revoked. -/
  | revoked {config : Config} {record next : Record} {event : Revocation} {revoked : Revoked}
      (within : config.check = .ok ()) (held : Reachable hashing record)
      (carried : revoke hashing config (some record) event = .ok revoked)
      (struck : revoked.record = some next) : Reachable hashing next
  /-- A response is accepted. -/
  | responded {record : Record} {event : Response} {responded : Responded}
      (held : Reachable hashing record)
      (accepted : respond hashing (some record) event = .ok responded) :
      Reachable hashing responded.record

theorem Storable.lookUp (storable : record.Storable) (hashing : Hashing) (event : Revocation) :
    Storable { record with recency := (record.lookUp hashing event).1 } :=
  ⟨(Recency.revoke_cases _ _ _).storable storable.recency, storable.books⟩

/-- **Every record that an engine can hold fits into its frame.** -/
theorem Reachable.storable (reachable : Reachable hashing record) : record.Storable := by
  induction reachable with
  | opened entity salt firstSeen => exact storable_empty entity salt firstSeen
  | read accepted => exact storable_of_decode accepted
  | ingested within held accepted ih =>
    obtain ⟨record, checked, entered, -, rfl⟩ := ingest_eq_ok.mp accepted
    rcases opened_eq_ok.mp entered with ⟨known, -⟩ | ⟨-, rfl⟩
    · exact (ih record known).takeIn hashing within checked
    · exact (storable_empty _ _ _).takeIn hashing within checked
  | @revoked config record next event revoked within held carried struck ih =>
    obtain ⟨-, case⟩ := revoke_cases carried
    cases case with
    | missed | repeated => cases struck
    | struck timely found room =>
      cases struck
      have marked := ih.lookUp hashing event
      rw [found] at marked
      exact marked.settled hashing config event _
  | responded held accepted ih =>
    obtain ⟨record, -, known, -, rfl⟩ := respond_eq_ok.mp accepted
    cases known
    exact ih.answered hashing _

/-- **Every event under a configuration within bounds keeps a record fit for its frame.** -/
theorem storable_keptByEvents (hashing : Hashing) (within : config.check = .ok ()) :
    Engine.KeptByEvents hashing config Storable where
  opened := storable_empty
  takenIn _ _ checked storable := storable.takeIn hashing within checked
  settled record event recency score location found storable := by
    have marked := storable.lookUp hashing event
    rw [found] at marked
    exact marked.settled hashing config event score
  answered _ event storable := storable.answered hashing event

/-- **The bytes of a record are faithful.** Every record that an engine can hold comes back from
its bytes; exactly the readable bytes are a record, and all others are refused; and what is read
comes back from its own bytes. -/
theorem faithful_bytes (hashing : Hashing) :
    (∀ record, Reachable hashing record → decode (encode record) = .ok record) ∧
      (∀ bytes, ((∃ record, decode bytes = .ok record) ↔ Readable bytes) ∧
        (¬ Readable bytes → ∃ fault, decode bytes = .error (.codec fault))) ∧
      ∀ bytes record, decode bytes = .ok record → decode (encode record) = .ok record :=
  ⟨fun _ reachable => decode_encode reachable.storable,
    fun _ => ⟨decode_accepts, decode_refuses⟩,
    fun _ _ accepted => decode_encode (storable_of_decode accepted)⟩

/-- The highest score, given to an entity without a record. -/
def praise : Feedback := ⟨⟨7⟩, ⟨.ofSeed 1⟩, 100, 1, 100, ⟨.fill 0⟩⟩

/-- The record that a first feedback makes comes back from its bytes, while no bytes at all are no
record. -/
theorem faithful_bytes_praise :
    ∃ record, Reachable .blake3 record ∧ record.lastScore = 100 ∧
      decode (encode record) = .ok record ∧ Readable (encode record) ∧ ¬ Readable [] ∧
      ∃ fault, decode [] = .error (.codec fault) := by
  let opened := empty praise.entity (entitySalt .blake3 praise.entity praise.rater praise.time)
    praise.time
  have room : opened.RoomFor (({} : Config).tiers.epochOf praise.time) :=
    ⟨by decide, fun _ => by decide⟩
  have accepted : ingest .blake3 {} none praise = .ok (opened.takeIn .blake3 {} praise) :=
    ingest_eq_ok.mpr ⟨opened, rfl, opened_eq_ok.mpr (.inr ⟨rfl, rfl⟩), room, rfl⟩
  have within : ({} : Config).check = .ok () := rfl
  have reachable : Reachable .blake3 (opened.takeIn .blake3 {} praise).record :=
    .ingested within (fun _ absent => by cases absent) accepted
  obtain ⟨comesBack, reads, -⟩ := faithful_bytes .blake3
  have back := comesBack _ reachable
  have unreadable : ¬ Readable [] := fun readable => absurd readable.length (by decide)
  exact ⟨_, reachable, by decide +kernel, back, (reads _).1.mp ⟨_, back⟩, unreadable,
    (reads []).2 unreadable⟩

end Record

end Reputation
