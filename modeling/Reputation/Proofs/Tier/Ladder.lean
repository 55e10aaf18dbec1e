/-
**The ladder of tiers.**

The thresholds get harder from tier to tier, so an entity that is fit for a tier is fit for every
lower one. A confirmed tier below the one that the entity is fit for is therefore earned as well.

* `TierMetrics.meets_of_le`: who meets what a tier asks for meets what the lower tiers ask for.
* `TierMachine.Advance.meets_confirmed`: after an event the entity meets what its confirmed tier
  asks for.
-/

import Reputation.Proofs.Config.Bounds
import Reputation.Proofs.Tier.Machine

namespace Reputation

/-- Whether the metrics reach a threshold, loyalty left aside. -/
def TierMetrics.Reach (metrics : TierMetrics) (threshold : Threshold) : Prop :=
  threshold.minQuality ≤ metrics.quality ∧ metrics.risk ≤ threshold.maxRisk ∧
    threshold.minConfidence ≤ metrics.confidence

namespace TierMetrics

variable {metrics : TierMetrics} {policy : TierPolicy}

theorem Reach.easier {harder easier : Threshold} (reached : metrics.Reach harder)
    (above : harder.harderThan easier = true) : metrics.Reach easier := by
  simp only [Threshold.harderThan, Bool.and_eq_true, decide_eq_true_eq] at above
  obtain ⟨⟨quality, risk⟩, confidence⟩ := above
  exact ⟨UInt32.le_trans (UInt32.le_of_lt quality) reached.1,
    UInt8.le_trans reached.2.1 (UInt8.le_of_lt risk),
    UInt8.le_trans (UInt8.le_of_lt confidence) reached.2.2⟩

/-- What a tier asks for: its threshold, and for platinum loyalty. -/
theorem meets_iff {tier : Tier} {threshold : Threshold}
    (asked : policy.threshold? tier = some threshold) :
    metrics.meets policy tier = true ↔
      metrics.Reach threshold ∧ (tier = .platinum → policy.platinumLoyalty ≤ metrics.loyalty) := by
  simp only [meets, asked, Bool.and_eq_true, Bool.or_eq_true, decide_eq_true_eq, Reach,
    Decidable.imp_iff_not_or, and_assoc]

theorem meets_unrated : metrics.meets policy .unrated = true := rfl

/-- A step down the ladder. -/
theorem meets_of_harder {lower higher : Tier} {easier harder : Threshold}
    (above : harder.harderThan easier = true) (asked : policy.threshold? higher = some harder)
    (low : policy.threshold? lower = some easier) (notTop : lower ≠ .platinum)
    (met : metrics.meets policy higher = true) : metrics.meets policy lower = true :=
  (meets_iff low).mpr ⟨((meets_iff asked).mp met).1.easier above, fun top => absurd top notTop⟩

theorem meets_of_le (ladder : policy.Ladder) {lower higher : Tier} (below : lower ≤ higher)
    (met : metrics.meets policy higher = true) : metrics.meets policy lower = true := by
  have gold : metrics.meets policy .platinum = true → metrics.meets policy .gold = true :=
    meets_of_harder ladder.platinum rfl rfl (by decide)
  have silver : metrics.meets policy .gold = true → metrics.meets policy .silver = true :=
    meets_of_harder ladder.gold rfl rfl (by decide)
  have bronze : metrics.meets policy .silver = true → metrics.meets policy .bronze = true :=
    meets_of_harder ladder.silver rfl rfl (by decide)
  cases lower <;> cases higher <;> grind [Tier.le_iff_rank, Tier.rank, meets_unrated]

theorem meets_eligible : metrics.meets policy (metrics.eligible policy) = true := by
  unfold eligible
  cases found : Tier.rated.reverse.find? (metrics.meets policy) with
  | none => exact meets_unrated
  | some tier => exact List.find?_some found

end TierMetrics

/-- **After an event the entity meets what its confirmed tier asks for.** -/
theorem TierMachine.Advance.meets_confirmed {machine next : TierMachine} {metrics : TierMetrics}
    {epoch : UInt64} {policy : TierPolicy} {transition : Transition}
    (advance : Advance machine (metrics.eligible policy) epoch policy next transition)
    (ladder : policy.Ladder) : metrics.meets policy next.confirmed = true :=
  TierMetrics.meets_of_le ladder advance.confirmed_le TierMetrics.meets_eligible

end Reputation
