/-
**What an event does to the tier machine.**

`Advance` lists the four things that an event can do: the confirmed tier falls, the entity settles
at it, it waits as a candidate for a higher tier, or the higher tier is confirmed. What is proved of
the machine splits on these four and never on `advance` itself.

* `advance_cases`: every event does one of the four.
* `Advance.confirmed_le`: after an event the confirmed tier is one that the entity is fit for.
* `Advance.moved`: the transition that an event tells says how the confirmed tier moved.
* `Moved.rises_iff`, `Moved.falls_iff`: promotions are the moves up and demotions the moves down.
* `Advance.aspires`: an open candidacy is for a tier above the confirmed one.
-/

import Reputation.Tier.Machine

namespace Reputation

namespace Tier

theorem lt_or_eq_or_gt (first second : Tier) :
    first < second ∨ first = second ∨ second < first := by
  cases first <;> cases second <;> decide

end Tier

/-! ### Moves between tiers -/

/-- Whether a transition says how a tier moved. -/
inductive Moved : Transition → Tier → Tier → Prop
  | up {source target before after : Tier} (rises : before < after) :
      Moved (.promoted source target) before after
  | down {source target before after : Tier} (falls : after < before) :
      Moved (.demoted source target) before after
  | level (tier : Tier) : Moved .unchanged tier tier

namespace Transition

/-- Whether the confirmed tier rose. -/
def IsPromotion : Transition → Prop
  | .promoted _ _ => True
  | _ => False

instance : DecidablePred IsPromotion
  | .promoted _ _ => .isTrue trivial
  | .demoted _ _ | .unchanged => .isFalse id

/-- Whether the confirmed tier fell. -/
def IsDemotion : Transition → Prop
  | .demoted _ _ => True
  | _ => False

instance : DecidablePred IsDemotion
  | .demoted _ _ => .isTrue trivial
  | .promoted _ _ | .unchanged => .isFalse id

end Transition

theorem Moved.rises_iff {transition : Transition} {before after : Tier}
    (moved : Moved transition before after) : before < after ↔ transition.IsPromotion := by
  cases moved with
  | up rises => exact iff_of_true rises trivial
  | down falls => exact iff_of_false (Nat.lt_asymm falls) id
  | level => exact iff_of_false (Nat.lt_irrefl _) id

theorem Moved.falls_iff {transition : Transition} {before after : Tier}
    (moved : Moved transition before after) : after < before ↔ transition.IsDemotion := by
  cases moved with
  | up rises => exact iff_of_false (Nat.lt_asymm rises) id
  | down falls => exact iff_of_true falls trivial
  | level => exact iff_of_false (Nat.lt_irrefl _) id

/-! ### The machine -/

namespace TierMachine

/-- The epoch from which a candidacy for the given tier counts at an event. -/
def clock (machine : TierMachine) (eligible : Tier) (epoch : UInt64) : UInt64 :=
  if machine.keepsClock eligible then machine.candidateEpoch else epoch

/-- What an event can do to the machine. -/
inductive Advance (machine : TierMachine) (eligible : Tier) (epoch : UInt64) (policy : TierPolicy) :
    TierMachine → Transition → Prop
  /-- The entity is no longer fit for its confirmed tier; a candidacy stays as it is. -/
  | fallen (lower : eligible < machine.confirmed) :
      Advance machine eligible epoch policy { machine with confirmed := eligible }
        (.demoted machine.confirmed eligible)
  /-- The entity is fit for just its confirmed tier; a candidacy ends. -/
  | settled (same : eligible = machine.confirmed) :
      Advance machine eligible epoch policy { machine with candidate := none } .unchanged
  /-- The candidacy has not held long enough. -/
  | waiting (higher : machine.confirmed < eligible)
      (early : epoch.toNat - (machine.clock eligible epoch).toNat < policy.vestingEpochs.toNat) :
      Advance machine eligible epoch policy
        ⟨machine.confirmed, some eligible, machine.clock eligible epoch⟩ .unchanged
  /-- The candidacy has held long enough. -/
  | vested (higher : machine.confirmed < eligible)
      (late : policy.vestingEpochs.toNat ≤ epoch.toNat - (machine.clock eligible epoch).toNat) :
      Advance machine eligible epoch policy ⟨eligible, none, machine.clock eligible epoch⟩
        (.promoted machine.confirmed eligible)

variable {machine next : TierMachine} {eligible : Tier} {metrics : TierMetrics} {epoch : UInt64}
  {policy : TierPolicy} {transition : Transition}

theorem advance_cases (advanced : machine.advance eligible epoch policy = (next, transition)) :
    Advance machine eligible epoch policy next transition := by
  rcases Tier.lt_or_eq_or_gt eligible machine.confirmed with lower | same | higher
  · rw [advance, if_pos lower] at advanced
    cases advanced
    exact .fallen lower
  · have stays : ¬ eligible < machine.confirmed := by rw [same]; exact Nat.lt_irrefl _
    rw [advance, if_neg stays, if_pos same] at advanced
    cases advanced
    exact .settled same
  · have stays : ¬ eligible < machine.confirmed := Nat.lt_asymm higher
    have rises : eligible ≠ machine.confirmed := by
      rintro rfl
      exact Nat.lt_irrefl _ higher
    rw [advance, if_neg stays, if_neg rises, pursue] at advanced
    change (if policy.vestingEpochs.toNat ≤ epoch.toNat - (machine.clock eligible epoch).toNat then
      _ else _) = _ at advanced
    split at advanced
    · rename_i late
      cases advanced
      exact .vested higher late
    · rename_i early
      cases advanced
      exact .waiting higher (Nat.lt_of_not_le early)

theorem evaluate_cases (evaluated : machine.evaluate metrics epoch policy = (next, transition)) :
    Advance machine (metrics.eligible policy) epoch policy next transition :=
  advance_cases evaluated

/-- **The confirmed tier is one that the entity is fit for.** -/
theorem Advance.confirmed_le (advance : Advance machine eligible epoch policy next transition) :
    next.confirmed ≤ eligible := by
  cases advance with
  | fallen => exact Nat.le_refl _
  | settled same => rw [same]; exact Nat.le_refl _
  | waiting higher => exact Nat.le_of_lt higher
  | vested => exact Nat.le_refl _

/-- **The transition says how the confirmed tier moved.** -/
theorem Advance.moved (advance : Advance machine eligible epoch policy next transition) :
    Moved transition machine.confirmed next.confirmed := by
  cases advance with
  | fallen lower => exact .down lower
  | settled | waiting => exact .level _
  | vested higher => exact .up higher

/-- An open candidacy is for a tier above the confirmed one. -/
def Aspires (machine : TierMachine) : Prop :=
  ∀ tier, machine.candidate = some tier → machine.confirmed < tier

/-- **An event keeps an open candidacy above the confirmed tier.** -/
theorem Advance.aspires (advance : Advance machine eligible epoch policy next transition)
    (aspires : machine.Aspires) : next.Aspires := by
  intro tier candidate
  cases advance with
  | fallen lower => exact Nat.lt_trans lower (aspires tier candidate)
  | settled | vested => cases candidate
  | waiting higher =>
    cases candidate
    exact higher

end TierMachine

end Reputation
