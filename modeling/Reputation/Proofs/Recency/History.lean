/-
**The remembered raters and the history of their writes and revocations.**

What is remembered is determined by the history, apart from which raters were given up. A slot
holds the latest write of its rater, marked if that write was revoked since, and no rater has two
slots. A revocation is therefore answered from the history of a rater who is remembered.

* `lastWrite?`, `struckSince`: what a history says of a rater.
* `Faithful`: what is remembered is what the history says.
* `Faithful.written`, `Faithful.answered`: a write and a revocation keep this.
* `Faithful.answers`: the answer to a revocation, in terms of the history.
* **`refines_history`**: both, after every run.
-/

import Reputation.Proofs.Recency.Step
import Reputation.Proofs.Run

namespace Reputation.Recency

/-! ### Runs -/

section Runs

/-- A feedback to be written, with the policy of its moment. -/
structure Write where
  policy : RingPolicy
  fingerprint : Fingerprint
  score : UInt8
  sequence : UInt64
  time : UInt64

/-- The slot of a write, marked or not. -/
def Write.slot (write : Write) (revoked : Bool) : Slot :=
  ⟨write.fingerprint, write.score, revoked, write.sequence, write.time⟩

/-- What can be asked of the memory. -/
inductive Call where
  | write (write : Write)
  | revoke (fingerprint : Fingerprint) (sequence : UInt64)

/-- What was asked and what came of it. -/
inductive Reply where
  | written (write : Write) (outcome : WriteOutcome)
  | answered (fingerprint : Fingerprint) (sequence : UInt64) (lookup : RevokeLookup)

/-- The memory after a call, and the reply. -/
def call (recency : Recency) : Call → Recency × Reply
  | .write feedback =>
    let (next, outcome) := recency.write feedback.policy feedback.fingerprint feedback.score
      feedback.sequence feedback.time
    (next, .written feedback outcome)
  | .revoke fingerprint sequence =>
    let (next, lookup) := recency.revoke fingerprint sequence
    (next, .answered fingerprint sequence lookup)

/-- The memory whose first window opens at the given time. -/
def system (windowStart : UInt64) : System Recency Call Reply where
  start := empty windowStart
  step := call

end Runs

/-! ### What a history says of a rater -/

section Histories

/-- The write of a rater in a reply. -/
def Reply.write? (fingerprint : Fingerprint) : Reply → Option Write
  | .written write _ => if write.fingerprint = fingerprint then some write else none
  | .answered .. => none

/-- Whether a reply revokes a feedback of a rater. -/
def Reply.strikes (fingerprint : Fingerprint) : Reply → Bool
  | .answered rater _ (.revoked ..) => rater = fingerprint
  | _ => false

/-- The latest write of a rater. -/
def lastWrite? (fingerprint : Fingerprint) (history : List Reply) : Option Write :=
  history.reverse.findSome? (·.write? fingerprint)

/-- Whether a feedback of a rater was revoked after its latest write. -/
def struckSince (fingerprint : Fingerprint) (history : List Reply) : Bool :=
  (history.reverse.takeWhile fun reply => (reply.write? fingerprint).isNone).any
    (·.strikes fingerprint)

variable {fingerprint : Fingerprint} {history : List Reply} {reply : Reply} {write : Write}

theorem lastWrite?_concat_of_write (wrote : reply.write? fingerprint = some write) :
    lastWrite? fingerprint (history ++ [reply]) = some write := by
  rw [lastWrite?, List.reverse_concat, List.findSome?_cons, wrote]

theorem lastWrite?_concat (silent : reply.write? fingerprint = none) :
    lastWrite? fingerprint (history ++ [reply]) = lastWrite? fingerprint history := by
  rw [lastWrite?, List.reverse_concat, List.findSome?_cons, silent]
  rfl

theorem struckSince_concat_of_write (wrote : reply.write? fingerprint = some write) :
    struckSince fingerprint (history ++ [reply]) = false := by
  rw [struckSince, List.reverse_concat, List.takeWhile_cons, wrote]
  rfl

theorem struckSince_concat (silent : reply.write? fingerprint = none) :
    struckSince fingerprint (history ++ [reply]) =
      (reply.strikes fingerprint || struckSince fingerprint history) := by
  rw [struckSince, List.reverse_concat, List.takeWhile_cons, silent]
  rfl

end Histories

/-! ### Being faithful to the history -/

section Faithfulness

/-- **What is remembered is what the history says.** -/
structure Faithful (history : List Reply) (recency : Recency) : Prop where
  /-- No rater has two slots, in the ring and the bypass list together. -/
  distinct : recency.Distinct
  /-- A slot holds the latest write of its rater, marked if it was revoked since. -/
  latest : ∀ location slot, recency.slot? location = some slot →
    ∃ write, lastWrite? slot.fingerprint history = some write ∧
      slot = write.slot (struckSince slot.fingerprint history)

variable {history : List Reply} {recency next : Recency} {fingerprint : Fingerprint}
  {sequence : UInt64} {write : Write} {reply : Reply} {location : Location} {slot : Slot}

theorem faithful_empty (windowStart : UInt64) : Faithful [] (empty windowStart) where
  distinct := distinct_empty windowStart
  latest location slot holds := by simp [slot?_empty] at holds

/-- A slot stays as the history says while its rater neither writes nor is revoked. -/
theorem Faithful.latest_concat (faithful : Faithful history recency)
    (holds : recency.slot? location = some slot) (silent : reply.write? slot.fingerprint = none)
    (spared : reply.strikes slot.fingerprint = false) :
    ∃ write, lastWrite? slot.fingerprint (history ++ [reply]) = some write ∧
      slot = write.slot (struckSince slot.fingerprint (history ++ [reply])) := by
  rw [lastWrite?_concat silent, struckSince_concat silent, spared, Bool.false_or]
  exact faithful.latest location slot holds

/-- **A write keeps the memory faithful.** -/
theorem Faithful.written {outcome : WriteOutcome} (faithful : Faithful history recency)
    (case : WriteCase recency write.policy (write.slot false) next outcome) :
    Faithful (history ++ [.written write outcome]) next := by
  obtain ⟨location, puts, owned⟩ := case.puts
  have owns := owned faithful.distinct
  refine ⟨case.distinct faithful.distinct, fun other slot holds => ?_⟩
  rcases puts.held owns holds with ⟨rfl, rfl⟩ | ⟨-, held, differs⟩
  · have wrote : (Reply.written write outcome).write? (write.slot false).fingerprint = some write :=
      if_pos rfl
    exact ⟨write, lastWrite?_concat_of_write wrote, by rw [struckSince_concat_of_write wrote]⟩
  · exact faithful.latest_concat held (if_neg (Ne.symm differs)) rfl

/-- **A revocation keeps the memory faithful.** -/
theorem Faithful.answered {lookup : RevokeLookup} (faithful : Faithful history recency)
    (case : RevokeCase recency fingerprint sequence next lookup) :
    Faithful (history ++ [.answered fingerprint sequence lookup]) next := by
  have distinct := case.distinct faithful.distinct
  cases case with
  | absent | stale | repeated =>
    exact ⟨distinct, fun _ _ holds => faithful.latest_concat holds rfl rfl⟩
  | @struck location slot found holds =>
    have puts := setSlot_puts recency { slot with revoked := true } location
    have owns : recency.Owns slot.fingerprint location := faithful.distinct location slot holds
    refine ⟨distinct, fun other after holdsAfter => ?_⟩
    have rater : slot.fingerprint = fingerprint := fingerprint_of_find? found holds
    rcases puts.held owns holdsAfter with ⟨rfl, rfl⟩ | ⟨-, held, differs⟩
    · -- The mark is set in the slot and in what the history says alike.
      obtain ⟨write, last, written⟩ := faithful.latest other slot holds
      refine ⟨write, (lastWrite?_concat rfl).trans last, ?_⟩
      have strikes : (Reply.answered fingerprint sequence (.revoked slot.score other)).strikes
          slot.fingerprint = true := decide_eq_true rater.symm
      rw [struckSince_concat rfl, strikes, Bool.true_or, written]
      rfl
    · have spared : fingerprint ≠ after.fingerprint :=
        fun same => differs (same.symm.trans rater.symm)
      exact faithful.latest_concat held rfl (decide_eq_false spared)

/-- **Every call keeps the memory faithful.** -/
theorem Faithful.called (faithful : Faithful history recency) (asked : Call) :
    Faithful (history ++ [(recency.call asked).2]) (recency.call asked).1 := by
  cases asked with
  | write feedback => exact faithful.written (write_cases recency feedback.policy _ _ _ _)
  | revoke fingerprint sequence => exact faithful.answered (revoke_cases recency _ _)

end Faithfulness

/-! ### Answers to revocations -/

section Answering

/-- The rater is remembered. -/
def Resident (recency : Recency) (fingerprint : Fingerprint) : Prop :=
  ∃ location slot, recency.slot? location = some slot ∧ slot.fingerprint = fingerprint

/-- The rater is remembered and its latest write has the sequence index. -/
def Current (history : List Reply) (recency : Recency) (fingerprint : Fingerprint)
    (sequence : UInt64) (write : Write) : Prop :=
  recency.Resident fingerprint ∧ lastWrite? fingerprint history = some write ∧
    write.sequence = sequence

/-- **What the answer to a revocation says of the history.** -/
structure Answers (history : List Reply) (recency : Recency) (fingerprint : Fingerprint)
    (sequence : UInt64) (next : Recency) (lookup : RevokeLookup) : Prop where
  revoked_iff : ∀ score, (∃ location, lookup = .revoked score location) ↔
    ∃ write, Current history recency fingerprint sequence write ∧
      struckSince fingerprint history = false ∧ write.score = score
  alreadyRevoked_iff : lookup = .alreadyRevoked ↔
    (∃ write, Current history recency fingerprint sequence write) ∧
      struckSince fingerprint history = true
  notFound_iff : lookup = .notFound ↔ ¬ ∃ write, Current history recency fingerprint sequence write
  /-- Nothing changes where no feedback is revoked. -/
  unchanged : (lookup = .alreadyRevoked ∨ lookup = .notFound) → next = recency

variable {history : List Reply} {recency next : Recency} {fingerprint : Fingerprint}
  {sequence : UInt64} {lookup : RevokeLookup} {location : Location} {slot : Slot}

/-- The slot that is found tells the latest write of the rater. -/
theorem Faithful.found (faithful : Faithful history recency)
    (found : recency.find? fingerprint = some location)
    (holds : recency.slot? location = some slot) :
    recency.Resident fingerprint ∧ ∃ write, lastWrite? fingerprint history = some write ∧
      slot = write.slot (struckSince fingerprint history) := by
  obtain rfl : slot.fingerprint = fingerprint := fingerprint_of_find? found holds
  exact ⟨⟨location, slot, holds, rfl⟩, faithful.latest location slot holds⟩

theorem notFound_of_not_current
    (none : ¬ ∃ write, Current history recency fingerprint sequence write) :
    Answers history recency fingerprint sequence recency .notFound where
  revoked_iff score := by
    constructor
    · rintro ⟨location, revoked⟩
      cases revoked
    · rintro ⟨write, current, -⟩
      exact absurd ⟨write, current⟩ none
  alreadyRevoked_iff := by simp [none]
  notFound_iff := by simp [none]
  unchanged _ := rfl

/-- **A revocation is answered from the history of a rater who is remembered.** -/
theorem Faithful.answers (faithful : Faithful history recency)
    (case : RevokeCase recency fingerprint sequence next lookup) :
    Answers history recency fingerprint sequence next lookup := by
  cases case with
  | absent absent =>
    have none : ¬ ∃ write, Current history recency fingerprint sequence write := by
      rintro ⟨write, ⟨location, slot, holds, same⟩, -⟩
      exact absent_of_find? absent holds same
    exact notFound_of_not_current none
  | stale found holds differs =>
    obtain ⟨-, write, last, rfl⟩ := faithful.found found holds
    have none : ¬ ∃ write, Current history recency fingerprint sequence write := by
      rintro ⟨other, -, lastOther, same⟩
      obtain rfl : write = other := Option.some.inj (last.symm.trans lastOther)
      exact differs same
    exact notFound_of_not_current none
  | repeated found holds same marked =>
    obtain ⟨resident, write, last, rfl⟩ := faithful.found found holds
    have current : Current history recency fingerprint sequence write := ⟨resident, last, same⟩
    have struck : struckSince fingerprint history = true := marked
    constructor
    · simp [struck]
    · simpa [struck] using ⟨write, current⟩
    · simpa using ⟨write, current⟩
    · exact fun _ => rfl
  | @struck location _ found holds same unmarked =>
    obtain ⟨resident, write, last, rfl⟩ := faithful.found found holds
    have current : Current history recency fingerprint sequence write := ⟨resident, last, same⟩
    have spared : struckSince fingerprint history = false := unmarked
    constructor
    · intro score
      constructor
      · rintro ⟨place, revoked⟩
        cases revoked
        exact ⟨write, current, spared, rfl⟩
      · rintro ⟨other, ⟨-, lastOther, -⟩, -, rfl⟩
        obtain rfl : write = other := Option.some.inj (last.symm.trans lastOther)
        exact ⟨location, rfl⟩
    · simp [spared]
    · simpa using ⟨write, current⟩
    · simp

end Answering

/-! ### After every run -/

section Main

/-- **What is remembered, and every answer to a revocation, is what the history says.** -/
theorem refines_history (windowStart : UInt64) (calls : List Call) :
    Faithful ((system windowStart).history calls) ((system windowStart).final calls) ∧
      ∀ fingerprint sequence,
        Answers ((system windowStart).history calls) ((system windowStart).final calls)
          fingerprint sequence
          (((system windowStart).final calls).revoke fingerprint sequence).1
          (((system windowStart).final calls).revoke fingerprint sequence).2 := by
  have faithful : Faithful ((system windowStart).history calls)
      ((system windowStart).final calls) := by
    refine (system windowStart).invariant Faithful (faithful_empty windowStart) ?_ calls
    intro history recency call faithful
    cases call with
    | write feedback => exact faithful.written (write_cases recency feedback.policy _ _ _ _)
    | revoke fingerprint sequence => exact faithful.answered (revoke_cases recency _ _)
  exact ⟨faithful, fun fingerprint sequence =>
    faithful.answers (revoke_cases _ fingerprint sequence)⟩

end Main

end Reputation.Recency
