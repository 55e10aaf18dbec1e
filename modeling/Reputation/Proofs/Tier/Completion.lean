/-
**Vesting always completes.**

The clock of a candidacy is set to the epoch at hand when the candidacy starts, and it is left alone
when the target is lowered. It never shows an epoch that is yet to come. An entity that stays fit
for more than its confirmed tier, and never for more than just before, is therefore not kept
waiting: whatever it went through earlier, its clock shows the first epoch of the stretch, if not an
earlier one.

* `candidateEpoch_final_le`: a run keeps no later epoch than those of its events.
* `Advance.pursued`: an event at which the entity is fit for a higher tier confirms that tier, or
  comes too early and leaves the confirmed tier and the clock alone.
* `Pursuit`: a stretch of such events; `Pursuit.completes`: it ends with a promotion in time.
* **`vesting_completes`**: the same after every run.
-/

import Mathlib.Data.List.Chain
import Reputation.Proofs.Tier.Vesting

namespace Reputation

namespace TierMachine

variable {machine next : TierMachine} {eligible source : Tier} {epoch bound start : UInt64}
  {policy : TierPolicy} {transition : Transition} {event : Evaluation} {events : List Evaluation}

/-! ### No clock is late -/

theorem clock_le (kept : machine.candidateEpoch ≤ bound) (now : epoch ≤ bound) :
    machine.clock eligible epoch ≤ bound := by
  unfold clock
  split
  · exact kept
  · exact now

/-- A candidacy keeps its clock when its target is lowered. -/
theorem clock_of_lowered {tier : Tier} (candidate : machine.candidate = some tier)
    (lowered : eligible ≤ tier) : machine.clock eligible epoch = machine.candidateEpoch := by
  have keeps : machine.keepsClock eligible = true := by
    rw [keepsClock, candidate]
    exact decide_eq_true lowered
  rw [clock, if_pos keeps]

/-- **The epoch that an event leaves behind is the one before it or its own.** -/
theorem Advance.candidateEpoch_le
    (advance : Advance machine eligible epoch policy next transition)
    (kept : machine.candidateEpoch ≤ bound) (now : epoch ≤ bound) :
    next.candidateEpoch ≤ bound := by
  cases advance with
  | fallen | settled => exact kept
  | waiting | vested => exact clock_le kept now

theorem candidateEpoch_final_le (past : ∀ event ∈ events, event.epoch ≤ bound) :
    (system.final events).candidateEpoch ≤ bound := by
  have opening : system.start.candidateEpoch ≤ bound :=
    UInt64.le_iff_toNat_le.mpr (Nat.zero_le _)
  refine system.invariant_of_allowed (·.epoch ≤ bound) (fun _ machine =>
    machine.candidateEpoch ≤ bound) opening (fun history machine event now kept => ?_) events past
  rcases evaluated : machine.evaluate event.metrics event.epoch event.policy
    with ⟨next, transition⟩
  rw [step_of_evaluate evaluated]
  exact (evaluate_cases evaluated).candidateEpoch_le kept now

/-! ### A stretch of events -/

/-- **An event at which the entity is fit for a higher tier** confirms that tier, or it comes too
early. Then the confirmed tier stays, and a clock that is not late stays so. -/
theorem Advance.pursued (advance : Advance machine eligible epoch policy next transition)
    (higher : machine.confirmed < eligible) (clocked : machine.clock eligible epoch ≤ start) :
    transition = .promoted machine.confirmed eligible ∨
      transition = .unchanged ∧ epoch.toNat < start.toNat + policy.vestingEpochs.toNat ∧
        next.confirmed = machine.confirmed ∧ next.candidate = some eligible ∧
          next.candidateEpoch ≤ start := by
  cases advance with
  | fallen lower => exact absurd lower (Nat.lt_asymm higher)
  | settled same =>
    rw [same] at higher
    exact absurd higher (Nat.lt_irrefl _)
  | waiting _ early =>
    have begun := UInt64.le_iff_toNat_le.mp clocked
    exact .inr ⟨rfl, by omega, rfl, rfl, clocked⟩
  | vested => exact .inl rfl

/-- A stretch of events under one policy at which the entity is fit for more than the given tier,
and never for more than at the event before. -/
structure Pursuit (policy : TierPolicy) (source : Tier) (events : List Evaluation) : Prop where
  policy_eq : ∀ event ∈ events, event.policy = policy
  falling : events.IsChain fun earlier later => later.eligible ≤ earlier.eligible
  higher : ∀ event ∈ events, source < event.eligible

theorem Pursuit.tail (pursuit : Pursuit policy source (event :: events)) :
    Pursuit policy source events where
  policy_eq later among := pursuit.policy_eq later (List.mem_cons_of_mem _ among)
  falling := (List.isChain_cons.mp pursuit.falling).2
  higher later among := pursuit.higher later (List.mem_cons_of_mem _ among)

/-- **A stretch that reaches the end of its vesting ends with a promotion by then.** The induction
is on the events: each of them promotes, or leaves a clock that is not late to the next one. -/
theorem Pursuit.completes (pursuit : Pursuit policy source events)
    (confirmed : machine.confirmed = source)
    (clocked : ∀ event ∈ events.head?, machine.clock event.eligible event.epoch ≤ start)
    (late : ∃ event ∈ events,
      start.toNat + policy.vestingEpochs.toNat ≤ event.epoch.toNat) :
    ∃ waiting vesting later verdicts, events = waiting ++ vesting :: later ∧
      system.historyFrom machine events =
        waiting.map (⟨·, .unchanged⟩) ++ ⟨vesting, .promoted source vesting.eligible⟩ :: verdicts ∧
      ∀ event ∈ waiting, event.epoch.toNat < start.toNat + policy.vestingEpochs.toNat := by
  induction events generalizing machine with
  | nil =>
    obtain ⟨event, among, -⟩ := late
    cases among
  | cons event rest ih =>
    have higher := pursuit.higher event List.mem_cons_self
    rcases evaluated : machine.evaluate event.metrics event.epoch event.policy
      with ⟨next, transition⟩
    have history : system.historyFrom machine (event :: rest) =
        ⟨event, transition⟩ :: system.historyFrom next rest := by
      rw [System.historyFrom, step_of_evaluate evaluated]
    rcases (evaluate_cases evaluated).pursued (confirmed ▸ higher) (clocked event rfl) with
      rfl | ⟨rfl, early, stays, candidate, kept⟩
    · refine ⟨[], event, rest, system.historyFrom next rest, rfl, ?_, fun _ none => by cases none⟩
      rw [history, confirmed]
      rfl
    · rw [pursuit.policy_eq event List.mem_cons_self] at early
      have lateOnes : ∃ event ∈ rest,
          start.toNat + policy.vestingEpochs.toNat ≤ event.epoch.toNat := by
        obtain ⟨other, among, reached⟩ := late
        rcases List.mem_cons.mp among with rfl | among
        · omega
        · exact ⟨other, among, reached⟩
      have clockedNext : ∀ following ∈ rest.head?,
          next.clock following.eligible following.epoch ≤ start := by
        intro following first
        rw [clock_of_lowered candidate ((List.isChain_cons.mp pursuit.falling).1 following first)]
        exact kept
      obtain ⟨waiting, vesting, later, verdicts, split, made, soon⟩ :=
        ih pursuit.tail (stays.trans confirmed) clockedNext lateOnes
      refine ⟨event :: waiting, vesting, later, verdicts, congrArg _ split, ?_, ?_⟩
      · rw [history, made]
        rfl
      · intro other among
        rcases List.mem_cons.mp among with rfl | among
        · exact early
        · exact soon other among

/-- **Vesting always completes.** After every run, with policies that may change from event to
event, take further events under one policy, the first of which is in no earlier epoch than those of
the run. As long as the entity is fit for more than was confirmed at the end of the run, and never
for more than at the event before, it is promoted to what it is fit for at the latest at the first
event that is the vesting epochs after the first one, if there is such an event. Before that nothing
changes. -/
theorem vesting_completes {events rest : List Evaluation} {first : Evaluation}
    {policy : TierPolicy} (past : ∀ event ∈ events, event.epoch ≤ first.epoch)
    (pursuit : Pursuit policy (system.final events).confirmed (first :: rest))
    (late : ∃ event ∈ first :: rest,
      first.epoch.toNat + policy.vestingEpochs.toNat ≤ event.epoch.toNat) :
    ∃ waiting vesting later verdicts, first :: rest = waiting ++ vesting :: later ∧
      system.history (events ++ first :: rest) =
        system.history events ++ (waiting.map (⟨·, .unchanged⟩) ++
          ⟨vesting, .promoted (system.final events).confirmed vesting.eligible⟩ :: verdicts) ∧
      ∀ event ∈ waiting,
        event.epoch.toNat < first.epoch.toNat + policy.vestingEpochs.toNat := by
  have clocked : ∀ event ∈ (first :: rest).head?,
      (system.final events).clock event.eligible event.epoch ≤ first.epoch := by
    rintro _ ⟨rfl⟩
    exact clock_le (candidateEpoch_final_le past) (UInt64.le_refl _)
  obtain ⟨waiting, vesting, later, verdicts, split, made, soon⟩ :=
    pursuit.completes rfl clocked late
  refine ⟨waiting, vesting, later, verdicts, split, ?_, soon⟩
  rw [System.history, System.historyFrom_append, ← made]
  rfl

/-- An entity that is confirmed as bronze, aims for gold, dips, and aims lower twice. -/
def lowered : List Evaluation :=
  [sound 3000 0, sound 3000 2, sound 7000 3, sound 0 4]

/-- What it is fit for after the dip. -/
def patient : List Evaluation := [sound 5000 4, sound 3000 4, sound 3000 6, sound 3000 7]

/-- The dip and the lower targets do not hold up the promotion. -/
theorem vesting_completes_lowered :
    (∀ event ∈ lowered, event.epoch ≤ 4) ∧
      Pursuit { vestingEpochs := 2 } (system.final lowered).confirmed patient ∧
      (∃ event ∈ patient, 4 + 2 ≤ event.epoch.toNat) ∧
      ∃ waiting vesting later verdicts, patient = waiting ++ vesting :: later ∧
        system.history (lowered ++ patient) =
          system.history lowered ++ (waiting.map (⟨·, .unchanged⟩) ++
            ⟨vesting, .promoted .unrated vesting.eligible⟩ :: verdicts) ∧
        ∀ event ∈ waiting, event.epoch.toNat < 4 + 2 := by
  have past : ∀ event ∈ lowered, event.epoch ≤ 4 := by decide
  have pursuit : Pursuit { vestingEpochs := 2 } (system.final lowered).confirmed patient :=
    ⟨by decide, by decide, by decide⟩
  have late : ∃ event ∈ patient, 4 + 2 ≤ event.epoch.toNat := by decide
  exact ⟨past, pursuit, late, vesting_completes past pursuit late⟩

end TierMachine

end Reputation
