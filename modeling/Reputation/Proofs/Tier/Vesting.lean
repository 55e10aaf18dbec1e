/-
**Vesting is never beaten.**

A run of the tier machine starts with the unrated machine and puts one evaluation after the other to
it, each with metrics, epoch and policy of its own. The machine keeps no more of a run than a
candidate and an epoch; what they stand for is a stretch of the history.

* `HeldSince tier epoch history`: the history ends with a stretch that begins in the given epoch
  with an entity fit for the tier. In all of it the entity is fit for the tier or falls, and nothing
  is confirmed.
* `Backed`: an open candidacy has been held since the epoch that the machine keeps. Every evaluation
  keeps this (`Backed.step`), hence it holds after every run (`backed_final`).
* **`promoted_after_vesting`**: a promotion ends a stretch that is at least as long as the vesting
  epochs in force at the promotion.
-/

import Reputation.Proofs.Run
import Reputation.Proofs.Tier.Machine

namespace Reputation

/-- An event as the tier machine sees it. -/
structure Evaluation where
  metrics : TierMetrics
  epoch : UInt64
  policy : TierPolicy
deriving DecidableEq, Repr

/-- The tier that the entity is fit for at an event. -/
def Evaluation.eligible (evaluation : Evaluation) : Tier :=
  evaluation.metrics.eligible evaluation.policy

/-- An event and how the confirmed tier moved at it. -/
structure Verdict where
  evaluation : Evaluation
  transition : Transition
deriving DecidableEq, Repr

/-- Whether a candidacy for the tier survives a verdict: the entity is fit for it, or falls. -/
def Verdict.Spares (verdict : Verdict) (tier : Tier) : Prop :=
  tier ≤ verdict.evaluation.eligible ∨ verdict.transition.IsDemotion

/-- Whether a history ends with a stretch that begins in the given epoch with an entity fit for the
tier, spares a candidacy for the tier throughout, and confirms nothing. -/
def HeldSince (tier : Tier) (epoch : UInt64) (history : List Verdict) : Prop :=
  ∃ before opening held, history = before ++ opening :: held ∧
    opening.evaluation.epoch = epoch ∧ tier ≤ opening.evaluation.eligible ∧
    ∀ verdict ∈ opening :: held, verdict.Spares tier ∧ ¬ verdict.transition.IsPromotion

namespace HeldSince

variable {tier lower : Tier} {epoch : UInt64} {history : List Verdict} {verdict : Verdict}

/-- A stretch begins with an entity that is fit for the tier. -/
theorem opened (fit : tier ≤ verdict.evaluation.eligible)
    (unconfirmed : ¬ verdict.transition.IsPromotion) :
    HeldSince tier verdict.evaluation.epoch (history ++ [verdict]) := by
  refine ⟨history, verdict, [], rfl, rfl, fit, fun other member => ?_⟩
  obtain rfl := List.mem_singleton.mp member
  exact ⟨.inl fit, unconfirmed⟩

/-- A stretch goes on over a verdict that spares the candidacy. -/
theorem extended (held : HeldSince tier epoch history) (spares : verdict.Spares tier)
    (unconfirmed : ¬ verdict.transition.IsPromotion) :
    HeldSince tier epoch (history ++ [verdict]) := by
  obtain ⟨before, opening, between, rfl, begun, fit, each⟩ := held
  refine ⟨before, opening, between ++ [verdict], by simp, begun, fit, fun other member => ?_⟩
  rw [← List.cons_append, List.mem_append, List.mem_singleton] at member
  rcases member with member | rfl
  · exact each other member
  · exact ⟨spares, unconfirmed⟩

/-- A stretch for a tier is one for every lower tier. -/
theorem lowered (held : HeldSince tier epoch history) (below : lower ≤ tier) :
    HeldSince lower epoch history := by
  obtain ⟨before, opening, between, split, begun, fit, each⟩ := held
  refine ⟨before, opening, between, split, begun, Nat.le_trans below fit, fun other member => ?_⟩
  obtain ⟨fit | fallen, unconfirmed⟩ := each other member
  · exact ⟨.inl (Nat.le_trans below fit), unconfirmed⟩
  · exact ⟨.inr fallen, unconfirmed⟩

end HeldSince

namespace TierMachine

/-- The tier machine, taking evaluations. -/
def system : System TierMachine Evaluation Verdict where
  start := {}
  step machine evaluation :=
    let moved := machine.evaluate evaluation.metrics evaluation.epoch evaluation.policy
    (moved.1, ⟨evaluation, moved.2⟩)

theorem step_of_evaluate {machine next : TierMachine} {evaluation : Evaluation}
    {transition : Transition}
    (evaluated : machine.evaluate evaluation.metrics evaluation.epoch evaluation.policy =
      (next, transition)) :
    system.step machine evaluation = (next, ⟨evaluation, transition⟩) := by
  simp only [system, evaluated]

/-- Whether an open candidacy has been held since the epoch that the machine keeps. -/
def Backed (history : List Verdict) (machine : TierMachine) : Prop :=
  ∀ tier, machine.candidate = some tier → HeldSince tier machine.candidateEpoch history

variable {history : List Verdict} {machine : TierMachine} {eligible : Tier}

/-- A kept clock shows since when the entity has been fit for the tier. -/
theorem Backed.heldSince_of_keepsClock (backed : Backed history machine)
    (keeps : machine.keepsClock eligible = true) :
    HeldSince eligible machine.candidateEpoch history := by
  obtain ⟨tier, candidate, below⟩ := (Option.any_eq_true _ _).mp keeps
  exact (backed tier candidate).lowered (of_decide_eq_true below)

/-- The clock of a candidacy shows since when the entity has been fit for the tier, the event at
hand included. -/
theorem Backed.heldSince_clock (backed : Backed history machine) {verdict : Verdict}
    (fit : eligible ≤ verdict.evaluation.eligible)
    (unconfirmed : ¬ verdict.transition.IsPromotion) :
    HeldSince eligible (machine.clock eligible verdict.evaluation.epoch)
      (history ++ [verdict]) := by
  unfold clock
  split
  · rename_i keeps
    exact (backed.heldSince_of_keepsClock keeps).extended (.inl fit) unconfirmed
  · exact .opened fit unconfirmed

/-- A candidacy that has vested was held for the vesting epochs before the event at hand. -/
theorem Backed.heldSince_of_vested (backed : Backed history machine) {epoch : UInt64}
    {policy : TierPolicy} (vests : 1 ≤ policy.vestingEpochs.toNat)
    (late : policy.vestingEpochs.toNat ≤ epoch.toNat - (machine.clock eligible epoch).toNat) :
    ∃ start : UInt64, start.toNat + policy.vestingEpochs.toNat ≤ epoch.toNat ∧
      HeldSince eligible start history := by
  unfold clock at late
  split at late
  · rename_i keeps
    exact ⟨machine.candidateEpoch, by omega, backed.heldSince_of_keepsClock keeps⟩
  · -- A clock that starts now has let no epoch pass.
    omega

/-- **Every evaluation keeps what the candidate stands for.** -/
theorem Backed.step (backed : Backed history machine) (evaluation : Evaluation) :
    Backed (history ++ [(system.step machine evaluation).2])
      (system.step machine evaluation).1 := by
  rcases evaluated : machine.evaluate evaluation.metrics evaluation.epoch evaluation.policy
    with ⟨next, transition⟩
  rw [step_of_evaluate evaluated]
  intro tier candidate
  cases evaluate_cases evaluated with
  | fallen lower => exact (backed tier candidate).extended (.inr trivial) id
  | settled same => cases candidate
  | waiting higher early =>
    cases candidate
    exact backed.heldSince_clock (Nat.le_refl _) id
  | vested higher late => cases candidate

theorem backed_final (evaluations : List Evaluation) :
    Backed (system.history evaluations) (system.final evaluations) :=
  system.invariant Backed (fun _ candidate => by cases candidate)
    (fun _ _ evaluation backed => backed.step evaluation) evaluations

/-- **No promotion comes before its vesting.** Take a run, with epochs in any order and policies
that may change from event to event, and in it a promotion under a policy that asks for at least one
vesting epoch. Some earlier event was at least the vesting epochs before the promotion, and the
entity was fit for the target at it. From that event up to the promotion the entity was fit for the
target or fell, and nothing was confirmed in between. -/
theorem promoted_after_vesting {evaluations : List Evaluation} {earlier later : List Verdict}
    {evaluation : Evaluation} {source target : Tier}
    (vests : 1 ≤ evaluation.policy.vestingEpochs.toNat)
    (promoted : system.history evaluations =
      earlier ++ ⟨evaluation, .promoted source target⟩ :: later) :
    ∃ before opening held, earlier = before ++ opening :: held ∧
      opening.evaluation.epoch.toNat + evaluation.policy.vestingEpochs.toNat ≤
        evaluation.epoch.toNat ∧
      target ≤ opening.evaluation.eligible ∧
      (∀ verdict ∈ opening :: held ++ [⟨evaluation, .promoted source target⟩],
        target ≤ verdict.evaluation.eligible ∨ verdict.transition.IsDemotion) ∧
      ∀ verdict ∈ held, ¬ verdict.transition.IsPromotion := by
  obtain ⟨calls, call, -, -, rfl, made⟩ := system.split_history promoted
  have backed := backed_final calls
  rcases evaluated : (system.final calls).evaluate call.metrics call.epoch call.policy
    with ⟨next, transition⟩
  rw [step_of_evaluate evaluated, Verdict.mk.injEq] at made
  obtain ⟨rfl, rfl⟩ := made
  cases evaluate_cases evaluated with
  | vested higher late =>
    obtain ⟨start, passed, before, opening, held, split, rfl, fit, each⟩ :=
      backed.heldSince_of_vested vests late
    refine ⟨before, opening, held, split, passed, fit, fun verdict member => ?_,
      fun verdict member => (each verdict (List.mem_cons_of_mem _ member)).2⟩
    rcases List.mem_append.mp member with member | member
    · exact (each verdict member).1
    · obtain rfl := List.mem_singleton.mp member
      exact .inl (Nat.le_refl _)

/-- An event in the given epoch, with two vesting epochs, of an entity of the given quality that is
above all doubt. -/
def sound (quality : UInt32) (epoch : UInt64) : Evaluation :=
  ⟨⟨quality, 0, 100, 0⟩, epoch, { vestingEpochs := 2 }⟩

/-- An entity that is confirmed as bronze, aims for silver and dips. -/
def dipped : List Verdict :=
  [⟨sound 3000 0, .unchanged⟩, ⟨sound 3000 2, .promoted .unrated .bronze⟩,
    ⟨sound 5000 3, .unchanged⟩, ⟨sound 0 4, .demoted .bronze .unrated⟩]

/-- The dip leaves the clock alone, and silver is confirmed in the next epoch. -/
theorem dipped_promoted_after_vesting :
    1 ≤ (sound 5000 5).policy.vestingEpochs.toNat ∧
    system.history (dipped.map (·.evaluation) ++ [sound 5000 5]) =
      dipped ++ ⟨sound 5000 5, .promoted .unrated .silver⟩ :: [] ∧
    ∃ before opening held, dipped = before ++ opening :: held ∧
      opening.evaluation.epoch.toNat + (sound 5000 5).policy.vestingEpochs.toNat ≤
        (sound 5000 5).epoch.toNat ∧
      Tier.silver ≤ opening.evaluation.eligible ∧
      (∀ verdict ∈ opening :: held ++ [⟨sound 5000 5, .promoted .unrated .silver⟩],
        Tier.silver ≤ verdict.evaluation.eligible ∨ verdict.transition.IsDemotion) ∧
      ∀ verdict ∈ held, ¬ verdict.transition.IsPromotion := by
  have vests : 1 ≤ (sound 5000 5).policy.vestingEpochs.toNat := by decide
  have promoted : system.history (dipped.map (·.evaluation) ++ [sound 5000 5]) =
      dipped ++ ⟨sound 5000 5, .promoted .unrated .silver⟩ :: [] := by decide
  exact ⟨vests, promoted, promoted_after_vesting vests promoted⟩

end TierMachine

end Reputation
