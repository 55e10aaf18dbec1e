/-
**The window that protects the ring.**

A window opens with the memory, and again at every eviction that finds the residency time over. What
the memory keeps of the window, its opening, the number of writes that it let pass by and the cursor
of the bypass list, is what the history says of it. The bypass list has a slot for each write that a
window may let pass by, so that none of these writes is lost while the window lasts.

* `Window`, `windowAfter`: the window that is open after a history, and the raters that it let pass.
* `Guarded`: the memory agrees with the window, and shows every rater that passed.
* `Guarded.written`, `Guarded.answered`: a write and a revocation keep this.
* **`residency_window_law`**: when the full ring is passed by, how often, and what is kept of it.
-/

import Reputation.Proofs.Config.Bounds
import Reputation.Proofs.Recency.History

namespace Reputation.Recency

/-! ### What a history says of the window -/

section Windows

/-- A window. -/
structure Window where
  /-- The time at which it was opened. -/
  opened : UInt64
  /-- The raters whose writes it let pass the ring by, the latest first. -/
  passed : List Fingerprint

/-- Whether a window has lasted for the residency time of a policy. -/
def Window.HasLasted (window : Window) (policy : RingPolicy) (now : UInt64) : Prop :=
  policy.residencyTime.toNat ≤ now.toNat - window.opened.toNat

instance (window : Window) (policy : RingPolicy) (now : UInt64) :
    Decidable (window.HasLasted policy now) :=
  inferInstanceAs (Decidable (_ ≤ _))

/-- The window after a reply. An eviction opens a new one if the residency time is over. -/
def Window.after (window : Window) : Reply → Window
  | .written write ⟨.ringEvict _, _⟩ =>
    if window.HasLasted write.policy write.time then ⟨write.time, []⟩ else window
  | .written write ⟨.bypass, _⟩ => { window with passed := write.fingerprint :: window.passed }
  | _ => window

/-- The window that is open after a history; the first one opens with the memory. -/
def windowAfter (windowStart : UInt64) (history : List Reply) : Window :=
  history.foldl Window.after ⟨windowStart, []⟩

@[simp] theorem windowAfter_concat (windowStart : UInt64) (history : List Reply) (reply : Reply) :
    windowAfter windowStart (history ++ [reply]) =
      (windowAfter windowStart history).after reply := by
  rw [windowAfter, List.foldl_append]
  rfl

end Windows

/-! ### The memory agrees with the window -/

section Guarding

/-- The place in the bypass list that was written `age` writes before the latest one. -/
def behind (cursor : Fin 10) (age : Nat) : Fin 10 :=
  ⟨(cursor.val + 9 - age) % 10, Nat.mod_lt _ (by decide)⟩

/-- **The memory agrees with the window.** The window has let at most `limit` writes pass by, and
the bypass list shows their raters, going back from its cursor. -/
structure Guarded (limit : Nat) (window : Window) (recency : Recency) : Prop where
  opened : recency.windowStart = window.opened
  counted : recency.windowCount.toNat = window.passed.length
  limited : window.passed.length ≤ limit
  shows : ∀ age, age < window.passed.length →
    recency.rater? (.bypass (behind recency.bypassCursor age)) = window.passed[age]?

variable {limit : Nat} {window : Window} {recency next : Recency} {policy : RingPolicy}
  {write : Write} {outcome : WriteOutcome} {fingerprint : Fingerprint} {sequence : UInt64}
  {lookup : RevokeLookup} {fresh slot : Slot} {location : Location} {now : UInt64}

theorem guarded_empty (limit : Nat) (windowStart : UInt64) :
    Guarded limit ⟨windowStart, []⟩ (empty windowStart) where
  opened := rfl
  counted := rfl
  limited := Nat.zero_le limit
  shows _ none := absurd none (Nat.not_lt_zero _)

theorem Guarded.windowElapsed_eq (guarded : Guarded limit window recency) :
    recency.windowElapsed policy now = decide (window.HasLasted policy now) := by
  rw [windowElapsed, guarded.opened]
  rfl

theorem Guarded.bypassExhausted_eq (guarded : Guarded limit window recency) :
    recency.bypassExhausted policy =
      decide (policy.bypassLimit.toNat ≤ window.passed.length) := by
  rw [bypassExhausted, decide_eq_decide, UInt8.le_iff_toNat_le, guarded.counted]

/-- A slot that is written over by one of the same rater leaves all as it is. -/
theorem Guarded.setSlot (guarded : Guarded limit window recency)
    (holds : recency.slot? location = some slot) (same : fresh.fingerprint = slot.fingerprint) :
    Guarded limit window (recency.setSlot fresh location) := by
  refine ⟨?_, ?_, guarded.limited, fun age young => ?_⟩
  · rw [setSlot_windowStart, guarded.opened]
  · rw [setSlot_windowCount, guarded.counted]
  · rw [setSlot_bypassCursor, rater?_setSlot holds same]
    exact guarded.shows age young

/-- A slot that is put into the ring leaves the bypass list as it is. -/
theorem Guarded.rater?_bypass {index : Fin 24} {place : Fin 10}
    (puts : Puts recency fresh (.ring index) next) :
    next.rater? (.bypass place) = recency.rater? (.bypass place) := by
  rw [puts.rater?]
  exact if_neg nofun

/-- **One more write passes by.** The window has let fewer than `limit` pass, and the list is no
shorter than that, so its cursor stands under none of theirs. -/
theorem Guarded.pass (guarded : Guarded limit window recency) (fresh : Slot)
    (small : limit ≤ bypassCapacity) (below : window.passed.length < limit) :
    Guarded limit { window with passed := fresh.fingerprint :: window.passed }
      (recency.passBy fresh) := by
  have few : window.passed.length < 10 := Nat.lt_of_lt_of_le below small
  have puts := passBy_puts recency fresh
  have inList := recency.bypassCursor.isLt
  refine ⟨guarded.opened, ?_, below, fun age young => ?_⟩
  · show (UInt8.ofNat (min (recency.windowCount.toNat + 1) 255)).toNat = window.passed.length + 1
    rw [guarded.counted, UInt8.toNat_ofNat']
    omega
  · rw [puts.rater?]
    cases age with
    | zero =>
      have latest : behind (recency.passBy fresh).bypassCursor 0 = recency.bypassCursor := by
        apply Fin.ext
        show ((recency.bypassCursor.val + 1) % 10 + 9 - 0) % 10 = recency.bypassCursor.val
        omega
      rw [latest, if_pos rfl]
      rfl
    | succ age =>
      have older : age < window.passed.length := Nat.lt_of_succ_lt_succ young
      have moved : behind (recency.passBy fresh).bypassCursor (age + 1) =
          behind recency.bypassCursor age := by
        apply Fin.ext
        show ((recency.bypassCursor.val + 1) % 10 + 9 - (age + 1)) % 10 =
          (recency.bypassCursor.val + 9 - age) % 10
        omega
      have spared : Location.bypass (behind recency.bypassCursor age) ≠
          .bypass recency.bypassCursor := by
        intro same
        have equal : (recency.bypassCursor.val + 9 - age) % 10 = recency.bypassCursor.val :=
          congrArg Fin.val (Location.bypass.inj same)
        omega
      rw [moved, if_neg spared, guarded.shows age older]
      rfl

/-- **A write keeps the memory in agreement with the window**, if its policy lets no more than
`limit` writes pass by. -/
theorem Guarded.written (guarded : Guarded limit window recency) (small : limit ≤ bypassCapacity)
    (strict : write.policy.bypassLimit.toNat ≤ limit)
    (case : WriteCase recency write.policy (write.slot false) next outcome) :
    Guarded limit (window.after (.written write outcome)) next := by
  cases case with
  | @overwritten location previous found holds =>
    have same : (write.slot false).fingerprint = previous.fingerprint :=
      (fingerprint_of_find? found holds).symm
    cases location <;> exact guarded.setSlot holds same
  | @inserted free =>
    have puts := insert_puts recency free (write.slot false)
    exact ⟨guarded.opened, guarded.counted, guarded.limited, fun age young =>
      (Guarded.rater?_bypass puts).trans (guarded.shows age young)⟩
  | elapsed absent full under lasted =>
    have opens : window.HasLasted write.policy write.time :=
      of_decide_eq_true (guarded.windowElapsed_eq.symm.trans lasted)
    rw [Window.after, if_pos opens]
    exact ⟨rfl, rfl, Nat.zero_le _, fun _ none => absurd none (Nat.not_lt_zero _)⟩
  | forced absent full under lasting =>
    have goesOn : ¬ window.HasLasted write.policy write.time :=
      of_decide_eq_false (guarded.windowElapsed_eq.symm.trans lasting)
    have puts := evict_puts recency (write.slot false)
    rw [Window.after, if_neg goesOn]
    exact ⟨guarded.opened, guarded.counted, guarded.limited, fun age young =>
      (Guarded.rater?_bypass puts).trans (guarded.shows age young)⟩
  | passed absent full lasting room =>
    have below : window.passed.length < write.policy.bypassLimit.toNat :=
      Nat.lt_of_not_le (of_decide_eq_false (guarded.bypassExhausted_eq.symm.trans room))
    exact guarded.pass (write.slot false) small (Nat.lt_of_lt_of_le below strict)

/-- **A revocation keeps the memory in agreement with the window.** -/
theorem Guarded.answered (guarded : Guarded limit window recency)
    (case : RevokeCase recency fingerprint sequence next lookup) : Guarded limit window next := by
  cases case with
  | absent | stale | repeated => exact guarded
  | struck found holds => exact guarded.setSlot holds rfl

/-- Whether a call is no write, or its policy lets no more than `limit` writes pass by. -/
def Call.Lets (limit : Nat) (asked : Call) : Prop :=
  ∀ write, asked = .write write → write.policy.bypassLimit.toNat ≤ limit

/-- **The memory agrees with the window after every run.** -/
theorem guarded_final {calls : List Call} (windowStart : UInt64) (small : limit ≤ bypassCapacity)
    (lets : ∀ asked ∈ calls, asked.Lets limit) :
    Guarded limit (windowAfter windowStart ((system windowStart).history calls))
      ((system windowStart).final calls) := by
  refine (system windowStart).invariant_of_allowed (Call.Lets limit)
    (fun history => Guarded limit (windowAfter windowStart history))
    (guarded_empty limit windowStart) ?_ calls lets
  intro history recency asked strict guarded
  rw [windowAfter_concat]
  cases asked with
  | write write =>
    exact guarded.written small (strict write rfl) (write_cases recency write.policy _ _ _ _)
  | revoke fingerprint sequence => exact guarded.answered (revoke_cases recency _ _)

end Guarding

/-! ### After every run -/

section Main

/-- What would come of a write. -/
def Write.outcome (write : Write) (recency : Recency) : WriteOutcome :=
  (recency.write write.policy write.fingerprint write.score write.sequence write.time).2

/-- A feedback of the rater can be revoked: the revocation of its latest write finds it, and takes
effect unless it was revoked before. -/
def Revocable (history : List Reply) (recency : Recency) (fingerprint : Fingerprint) : Prop :=
  ∃ write, lastWrite? fingerprint history = some write ∧
    (recency.revoke fingerprint write.sequence).2 ≠ .notFound ∧
    (struckSince fingerprint history = false →
      ∃ location, (recency.revoke fingerprint write.sequence).2 = .revoked write.score location)

/-- **The law of residency windows.** What a history, the window that it leaves open and the memory
that it leads to say of the full ring. -/
structure ResidencyLaw (history : List Reply) (window : Window) (recency : Recency) : Prop where
  /-- The memory knows the time of the last opening. -/
  opened : recency.windowStart = window.opened
  /-- A new rater gets into the full ring if the window has lasted, or has let its number of writes
  pass by. -/
  evicts_iff : ∀ write : Write, ¬ recency.Resident write.fingerprint →
    recency.ringSize = ringCapacity →
    ((∃ rater, (write.outcome recency).placement = .ringEvict rater) ↔
      window.HasLasted write.policy write.time ∨
        write.policy.bypassLimit.toNat ≤ window.passed.length)
  /-- Any other new rater is put past the full ring. -/
  passes : ∀ write : Write, ¬ recency.Resident write.fingerprint →
    recency.ringSize = ringCapacity →
    ¬ (window.HasLasted write.policy write.time ∨
      write.policy.bypassLimit.toNat ≤ window.passed.length) →
    (write.outcome recency).placement = .bypass
  /-- No window lets more writes pass by than the bypass list holds. -/
  passed_le : window.passed.length ≤ bypassCapacity
  /-- Every rater that passed by in the window is remembered and can be revoked. -/
  passed_kept : ∀ fingerprint ∈ window.passed,
    recency.Resident fingerprint ∧ Revocable history recency fingerprint

variable {history : List Reply} {window : Window} {recency next : Recency} {limit : Nat}
  {fingerprint : Fingerprint} {write : Write} {outcome : WriteOutcome} {free : Fin 24}

theorem resident_of_rater? {location : Location}
    (shown : recency.rater? location = some fingerprint) : recency.Resident fingerprint := by
  obtain ⟨slot, holds, same⟩ := Option.map_eq_some_iff.mp shown
  exact ⟨location, slot, holds, same⟩

theorem Guarded.resident (guarded : Guarded limit window recency)
    (passed : fingerprint ∈ window.passed) : recency.Resident fingerprint := by
  obtain ⟨age, young, here⟩ := List.mem_iff_getElem.mp passed
  have shown := guarded.shows age young
  rw [List.getElem?_eq_getElem young, here] at shown
  exact resident_of_rater? shown

/-- A rater who is remembered can be revoked. -/
theorem Faithful.revocable (faithful : Faithful history recency)
    (resident : recency.Resident fingerprint) : Revocable history recency fingerprint := by
  obtain ⟨location, slot, holds, rfl⟩ := resident
  obtain ⟨write, last, -⟩ := faithful.latest location slot holds
  have current : Current history recency slot.fingerprint write.sequence write :=
    ⟨⟨location, slot, holds, rfl⟩, last, rfl⟩
  have answers := faithful.answers (revoke_cases recency slot.fingerprint write.sequence)
  refine ⟨write, last, fun missing => ?_, fun spared => ?_⟩
  · exact answers.notFound_iff.mp missing ⟨write, current⟩
  · exact (answers.revoked_iff write.score).mpr ⟨write, current, spared, rfl⟩

theorem ringSize_ne_of_free (first : recency.ring.findFinIdx? Option.isNone = some free) :
    recency.ringSize ≠ ringCapacity := by
  intro full
  have length : recency.ring.toList.length = ringCapacity := Vector.length_toList
  have isFree : recency.ring[free] = none :=
    Option.isNone_iff_eq_none.mp (first_of_findFinIdx? first).1
  have taken := List.countP_eq_length.mp (full.trans length.symm) recency.ring[free]
    (Vector.mem_toList_iff.mpr (Vector.getElem_mem free.isLt))
  rw [isFree] at taken
  cases taken

/-- A new rater who writes to the full ring is evicting or passed by, as the window says. -/
theorem Guarded.placement (guarded : Guarded limit window recency)
    (case : WriteCase recency write.policy (write.slot false) next outcome)
    (new : ¬ recency.Resident write.fingerprint) (full : recency.ringSize = ringCapacity) :
    ((window.HasLasted write.policy write.time ∨
        write.policy.bypassLimit.toNat ≤ window.passed.length) ∧
      ∃ rater, outcome.placement = .ringEvict rater) ∨
    (¬ (window.HasLasted write.policy write.time ∨
        write.policy.bypassLimit.toNat ≤ window.passed.length) ∧
      outcome.placement = .bypass) := by
  cases case with
  | overwritten found =>
    obtain ⟨slot, holds, same⟩ := find?_eq_some found
    exact absurd ⟨_, slot, holds, same⟩ new
  | inserted absent first => exact absurd full (ringSize_ne_of_free first)
  | elapsed absent _ under lasted =>
    have opens := of_decide_eq_true (guarded.windowElapsed_eq.symm.trans lasted)
    exact .inl ⟨.inl opens, _, rfl⟩
  | forced absent _ under lasting exhausted =>
    have many := of_decide_eq_true (guarded.bypassExhausted_eq.symm.trans exhausted)
    exact .inl ⟨.inr many, _, rfl⟩
  | passed absent _ lasting room =>
    have goesOn := of_decide_eq_false (guarded.windowElapsed_eq.symm.trans lasting)
    have few := of_decide_eq_false (guarded.bypassExhausted_eq.symm.trans room)
    exact .inr ⟨fun either => either.elim goesOn few, rfl⟩

theorem Guarded.residencyLaw (guarded : Guarded limit window recency)
    (small : limit ≤ bypassCapacity) (faithful : Faithful history recency) :
    ResidencyLaw history window recency where
  opened := guarded.opened
  evicts_iff write new full := by
    rcases guarded.placement (write_cases recency write.policy _ _ _ _) new full with
      ⟨due, evicts⟩ | ⟨early, passes⟩
    · exact ⟨fun _ => due, fun _ => evicts⟩
    · refine ⟨fun ⟨rater, evicts⟩ => ?_, fun due => absurd due early⟩
      cases passes.symm.trans evicts
  passes write new full early := by
    rcases guarded.placement (write_cases recency write.policy _ _ _ _) new full with
      ⟨due, -⟩ | ⟨-, passes⟩
    · exact absurd due early
    · exact passes
  passed_le := Nat.le_trans guarded.limited small
  passed_kept fingerprint passed :=
    ⟨guarded.resident passed, faithful.revocable (guarded.resident passed)⟩

/-- **The law of residency windows holds after every run** of writes, each under a policy within
bounds, and revocations, in whatever order their times are. If all writes are under one policy, no
window lets more of them pass by than this policy says. -/
theorem residency_window_law (windowStart : UInt64) {calls : List Call}
    (within : ∀ write, .write write ∈ calls → write.policy.check = .ok ()) :
    ResidencyLaw ((system windowStart).history calls)
        (windowAfter windowStart ((system windowStart).history calls))
        ((system windowStart).final calls) ∧
      ∀ policy : RingPolicy, (∀ write, .write write ∈ calls → write.policy = policy) →
        (windowAfter windowStart ((system windowStart).history calls)).passed.length ≤
          policy.bypassLimit.toNat := by
  have faithful : Faithful ((system windowStart).history calls)
      ((system windowStart).final calls) :=
    (system windowStart).invariant Faithful (faithful_empty windowStart)
      (fun _ _ asked faithful => faithful.called asked) calls
  have lets : ∀ asked ∈ calls, asked.Lets bypassCapacity := by
    rintro _ asked write rfl
    exact RingPolicy.bypassLimit_le_of_check (within write asked)
  refine ⟨(guarded_final windowStart (Nat.le_refl _) lets).residencyLaw (Nat.le_refl _) faithful,
    fun policy one => ?_⟩
  have letsBoth : ∀ asked ∈ calls,
      asked.Lets (min bypassCapacity policy.bypassLimit.toNat) := by
    rintro _ asked write rfl
    exact Nat.le_min.mpr ⟨lets _ asked write rfl, Nat.le_of_eq (by rw [one write asked])⟩
  exact Nat.le_trans (guarded_final windowStart (Nat.min_le_left _ _) letsBoth).limited
    (Nat.min_le_right _ _)

/-- Thirty-six raters, who write at one time under the usual policy. -/
def flood : List Call :=
  (List.range 36).map fun number => .write ⟨{}, ⟨UInt64.ofNat number⟩, 50, 1, 100⟩

/-- A flood fills the ring, then the bypass list, and gets into the ring again. -/
theorem residency_window_law_flood :
    (∀ write, .write write ∈ flood → write.policy.check = .ok ()) ∧
    (windowAfter 0 ((system 0).history flood)).passed.length = bypassCapacity ∧
    ((system 0).final flood).ringSize = ringCapacity ∧
    ResidencyLaw ((system 0).history flood) (windowAfter 0 ((system 0).history flood))
      ((system 0).final flood) := by
  have within : ∀ write, Call.write write ∈ flood → write.policy.check = .ok () := by
    intro write asked
    obtain ⟨number, -, same⟩ := List.mem_map.mp asked
    cases same
    rfl
  exact ⟨within, by decide +kernel, by decide +kernel, (residency_window_law 0 within).1⟩

end Main

end Reputation.Recency
