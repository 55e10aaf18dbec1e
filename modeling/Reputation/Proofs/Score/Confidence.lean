/-
**Confidence and the number of feedbacks.**

What the number of feedbacks adds to confidence grows in two stretches: by a step for each feedback
during cold start, and from a floor up to the ceiling afterwards. On each stretch more feedback
never lowers confidence. The bounds of a configuration keep the floor below the ceiling, but not the
last step of cold start below either of them: a steep cold start passes the ceiling, and confidence
falls when it ends.

* `sampledConfidence`, `bonuses`: confidence is made of what the number of feedbacks gives and of
  what the rest gives.
* `ConfidencePolicy.coldStartPeak`: what the last feedback of cold start gives.
* **`falls_only_after_cold_start`**: confidence grows and keeps to the ceiling but for the end of a
  cold start that is too steep.
* `steepStart_falls`: a configuration within bounds that has such a cold start.
-/

import Reputation.Proofs.Config.Bounds
import Reputation.Score.Confidence

namespace Reputation

variable {policy : ConfidencePolicy} {feedbacks more : Nat}

/-! ### What confidence is made of -/

/-- The confidence that the number of feedbacks gives on its own. -/
def sampledConfidence (feedbacks : Nat) (policy : ConfidencePolicy) : Nat :=
  min (baseConfidence feedbacks policy) confidenceMax

/-- What confidence has from diversity, from the spread over epochs and from loyalty. -/
def bonuses (inputs : ConfidenceInputs) (policy : ConfidencePolicy) : Nat :=
  divHalfUp (inputs.diversity.toNat * policy.uniquenessMax.toNat) diversityMax +
    min (inputs.epochs.toNat * policy.epochBonus.toNat) policy.epochBonusMax.toNat +
    min (inputs.loyalty.toNat / max policy.loyaltyDivisor.toNat 1) policy.loyaltyBonusMax.toNat

/-- A clamp in between does not show behind the same clamp. -/
theorem min_min_add (base bonus cap : Nat) :
    min (min base cap + bonus) cap = min (base + bonus) cap := by omega

theorem toNat_confidenceOf (inputs : ConfidenceInputs) (policy : ConfidencePolicy) :
    (confidenceOf inputs policy).toNat =
      min (sampledConfidence inputs.feedbacks.toNat policy + bonuses inputs policy)
        confidenceMax := by
  rw [sampledConfidence, min_min_add, bonuses, ← Nat.add_assoc, ← Nat.add_assoc]
  exact UInt8.toNat_ofNat_of_lt' (Nat.lt_of_le_of_lt (Nat.min_le_right _ _) (by decide))

theorem bonuses_none (feedbacks : UInt32) (policy : ConfidencePolicy) :
    bonuses ⟨feedbacks, 0, 0, 0⟩ policy = 0 := by
  show divHalfUp (0 * policy.uniquenessMax.toNat) diversityMax +
    min (0 * policy.epochBonus.toNat) policy.epochBonusMax.toNat +
    min (0 / max policy.loyaltyDivisor.toNat 1) policy.loyaltyBonusMax.toNat = 0
  rw [Nat.zero_mul, Nat.zero_mul, Nat.zero_div, Nat.zero_min, Nat.zero_min]
  rfl

theorem toNat_confidenceOf_alone (feedbacks : UInt32) (policy : ConfidencePolicy) :
    (confidenceOf ⟨feedbacks, 0, 0, 0⟩ policy).toNat =
      sampledConfidence feedbacks.toNat policy := by
  rw [toNat_confidenceOf, bonuses_none, Nat.add_zero]
  exact Nat.min_eq_left (Nat.min_le_right _ _)

/-- Confidence is the higher the more the number of feedbacks gives, all else being equal. -/
theorem confidenceOf_mono {inputs : ConfidenceInputs} {later : UInt32}
    (le : sampledConfidence inputs.feedbacks.toNat policy ≤
      sampledConfidence later.toNat policy) :
    confidenceOf inputs policy ≤ confidenceOf { inputs with feedbacks := later } policy := by
  rw [UInt8.le_iff_toNat_le, toNat_confidenceOf, toNat_confidenceOf]
  exact Nat.le_min.mpr ⟨Nat.le_trans (Nat.min_le_left _ _) (Nat.add_le_add_right le _),
    Nat.min_le_right _ _⟩

/-! ### The two stretches -/

theorem baseConfidence_cold (cold : feedbacks < policy.coldStartSamples.toNat) :
    baseConfidence feedbacks policy = feedbacks * policy.coldStartStep.toNat := if_pos cold

theorem baseConfidence_warm (warm : policy.coldStartSamples.toNat ≤ feedbacks) :
    baseConfidence feedbacks policy =
      min (policy.coldStartFloor.toNat +
        (feedbacks - policy.coldStartSamples.toNat) * policy.perFeedback.toNat)
        policy.ceiling.toNat := if_neg (Nat.not_lt.mpr warm)

/-- What the last feedback of cold start gives. -/
def ConfidencePolicy.coldStartPeak (policy : ConfidencePolicy) : Nat :=
  min ((policy.coldStartSamples.toNat - 1) * policy.coldStartStep.toNat) confidenceMax

theorem sampled_mono_cold (le : feedbacks ≤ more) (cold : more < policy.coldStartSamples.toNat) :
    sampledConfidence feedbacks policy ≤ sampledConfidence more policy := by
  have steps := Nat.mul_le_mul_right policy.coldStartStep.toNat le
  rw [sampledConfidence, sampledConfidence, baseConfidence_cold cold,
    baseConfidence_cold (Nat.lt_of_le_of_lt le cold)]
  omega

theorem sampled_mono_warm (le : feedbacks ≤ more)
    (warm : policy.coldStartSamples.toNat ≤ feedbacks) :
    sampledConfidence feedbacks policy ≤ sampledConfidence more policy := by
  have steps := Nat.mul_le_mul_right policy.perFeedback.toNat
    (Nat.sub_le_sub_right le policy.coldStartSamples.toNat)
  rw [sampledConfidence, sampledConfidence, baseConfidence_warm warm,
    baseConfidence_warm (Nat.le_trans warm le)]
  omega

theorem sampled_le_peak (cold : feedbacks < policy.coldStartSamples.toNat) :
    sampledConfidence feedbacks policy ≤ policy.coldStartPeak := by
  have steps := Nat.mul_le_mul_right policy.coldStartStep.toNat (Nat.le_sub_one_of_lt cold)
  rw [sampledConfidence, baseConfidence_cold cold, ConfidencePolicy.coldStartPeak]
  omega

theorem sampled_le_ceiling (warm : policy.coldStartSamples.toNat ≤ feedbacks) :
    sampledConfidence feedbacks policy ≤ policy.ceiling.toNat := by
  rw [sampledConfidence, baseConfidence_warm warm]
  omega

/-! ### The end of cold start -/

namespace ConfidencePolicy

/-- More feedback never lowers confidence, all else being equal. -/
def GrowsWithFeedback (policy : ConfidencePolicy) : Prop :=
  ∀ (inputs : ConfidenceInputs) (later : UInt32), inputs.feedbacks ≤ later →
    confidenceOf inputs policy ≤ confidenceOf { inputs with feedbacks := later } policy

/-- The number of feedbacks alone never takes confidence past the ceiling. -/
def KeepsCeiling (policy : ConfidencePolicy) : Prop :=
  ∀ feedbacks : UInt32, confidenceOf ⟨feedbacks, 0, 0, 0⟩ policy ≤ policy.ceiling

theorem Ordered.floor_le_sampled (ordered : policy.Ordered)
    (warm : policy.coldStartSamples.toNat ≤ feedbacks) :
    policy.coldStartFloor.toNat ≤ sampledConfidence feedbacks policy := by
  have ceiling := ordered.ceiling_le
  have floor := ordered.floor_le
  rw [sampledConfidence, baseConfidence_warm warm]
  omega

theorem Ordered.toNat_last (ordered : policy.Ordered) :
    (policy.coldStartSamples - 1).toNat = policy.coldStartSamples.toNat - 1 :=
  UInt32.toNat_sub_of_le policy.coldStartSamples 1
    (UInt32.le_iff_toNat_le.mpr ordered.samples_pos)

/-- The last feedback of cold start gives the peak. -/
theorem Ordered.sampled_last (ordered : policy.Ordered) :
    sampledConfidence (policy.coldStartSamples - 1).toNat policy = policy.coldStartPeak := by
  have some := ordered.samples_pos
  rw [sampledConfidence, ordered.toNat_last, baseConfidence_cold (by omega), coldStartPeak]

/-- The first feedback after cold start gives the floor. -/
theorem Ordered.sampled_first (ordered : policy.Ordered) :
    sampledConfidence policy.coldStartSamples.toNat policy = policy.coldStartFloor.toNat := by
  have ceiling := ordered.ceiling_le
  have floor := ordered.floor_le
  rw [sampledConfidence, baseConfidence_warm (Nat.le_refl _), Nat.sub_self, Nat.zero_mul]
  omega

/-- **More feedback never lowers confidence exactly if cold start does not end above the floor.** -/
theorem Ordered.growsWithFeedback_iff (ordered : policy.Ordered) :
    policy.GrowsWithFeedback ↔ policy.coldStartPeak ≤ policy.coldStartFloor.toNat := by
  constructor
  · intro grows
    have next : policy.coldStartSamples - 1 ≤ policy.coldStartSamples := by
      rw [UInt32.le_iff_toNat_le, ordered.toNat_last]
      exact Nat.sub_le _ _
    have ends := grows ⟨policy.coldStartSamples - 1, 0, 0, 0⟩ policy.coldStartSamples next
    rwa [UInt8.le_iff_toNat_le, toNat_confidenceOf_alone, toNat_confidenceOf_alone,
      ordered.sampled_last, ordered.sampled_first] at ends
  · intro level inputs later le
    rw [UInt32.le_iff_toNat_le] at le
    refine confidenceOf_mono ?_
    rcases Nat.lt_or_ge later.toNat policy.coldStartSamples.toNat with cold | warmed
    · exact sampled_mono_cold le cold
    · rcases Nat.lt_or_ge inputs.feedbacks.toNat policy.coldStartSamples.toNat with cold | warm
      · calc sampledConfidence inputs.feedbacks.toNat policy
            ≤ policy.coldStartPeak := sampled_le_peak cold
          _ ≤ policy.coldStartFloor.toNat := level
          _ ≤ sampledConfidence later.toNat policy := ordered.floor_le_sampled warmed
      · exact sampled_mono_warm le warm

/-- **The number of feedbacks alone keeps to the ceiling exactly if cold start does.** -/
theorem Ordered.keepsCeiling_iff (ordered : policy.Ordered) :
    policy.KeepsCeiling ↔ policy.coldStartPeak ≤ policy.ceiling.toNat := by
  constructor
  · intro kept
    have last := kept (policy.coldStartSamples - 1)
    rwa [UInt8.le_iff_toNat_le, toNat_confidenceOf_alone, ordered.sampled_last] at last
  · intro level feedbacks
    rw [UInt8.le_iff_toNat_le, toNat_confidenceOf_alone]
    rcases Nat.lt_or_ge feedbacks.toNat policy.coldStartSamples.toNat with cold | warm
    · exact Nat.le_trans (sampled_le_peak cold) level
    · exact sampled_le_ceiling warm

/-- **Confidence falls only when cold start ends, and passes the ceiling only before.** For every
configuration within bounds: where more feedback lowers confidence, all else being equal, cold start
ends in between, and where the number of feedbacks alone takes confidence past the ceiling, it has
not ended yet. The one never happens exactly if the last step of cold start is not above the floor,
the other exactly if it is not above the ceiling. -/
theorem falls_only_after_cold_start {policy : ConfidencePolicy} (within : policy.check = .ok ()) :
    (∀ (inputs : ConfidenceInputs) (later : UInt32), inputs.feedbacks ≤ later →
      confidenceOf { inputs with feedbacks := later } policy < confidenceOf inputs policy →
        inputs.feedbacks < policy.coldStartSamples ∧ policy.coldStartSamples ≤ later) ∧
      (∀ feedbacks, policy.ceiling < confidenceOf ⟨feedbacks, 0, 0, 0⟩ policy →
        feedbacks < policy.coldStartSamples) ∧
      (policy.GrowsWithFeedback ↔ policy.coldStartPeak ≤ policy.coldStartFloor.toNat) ∧
      (policy.KeepsCeiling ↔ policy.coldStartPeak ≤ policy.ceiling.toNat) := by
  have ordered := ordered_of_check within
  refine ⟨fun inputs later le falls => ?_, fun feedbacks above => ?_,
    ordered.growsWithFeedback_iff, ordered.keepsCeiling_iff⟩
  · rw [UInt32.le_iff_toNat_le] at le
    rw [UInt32.lt_iff_toNat_lt, UInt32.le_iff_toNat_le]
    constructor
    · refine Nat.lt_of_not_le fun warm => ?_
      exact UInt8.not_lt.mpr (confidenceOf_mono (sampled_mono_warm le warm)) falls
    · refine Nat.le_of_not_lt fun cold => ?_
      exact UInt8.not_lt.mpr (confidenceOf_mono (sampled_mono_cold le cold)) falls
  · rw [UInt32.lt_iff_toNat_lt]
    refine Nat.lt_of_not_le fun warm => ?_
    have kept := sampled_le_ceiling warm
    rw [← toNat_confidenceOf_alone, ← UInt8.le_iff_toNat_le] at kept
    exact UInt8.not_lt.mpr kept above

/-- The usual configuration ends its cold start below the floor. -/
theorem usual_grows_with_feedback :
    ({} : ConfidencePolicy).check = .ok () ∧ ({} : ConfidencePolicy).GrowsWithFeedback ∧
      ({} : ConfidencePolicy).KeepsCeiling := by
  have within : ({} : ConfidencePolicy).check = .ok () := rfl
  obtain ⟨-, -, grows, kept⟩ := falls_only_after_cold_start within
  exact ⟨within, grows.mpr (by decide), kept.mpr (by decide)⟩

/-- Twenty for each feedback of cold start, and twenty after it. -/
def steepStart : ConfidencePolicy := { coldStartStep := 20 }

/-- **A steep cold start passes the ceiling, and confidence falls when it ends.** The configuration
is within bounds; the fourth feedback gives eighty where the ceiling is at seventy, and the fifth
one gives twenty. -/
theorem steepStart_falls :
    steepStart.check = .ok () ∧ steepStart.ceiling = 70 ∧
      confidenceOf ⟨4, 0, 0, 0⟩ steepStart = 80 ∧ confidenceOf ⟨5, 0, 0, 0⟩ steepStart = 20 ∧
      ¬ steepStart.GrowsWithFeedback ∧ ¬ steepStart.KeepsCeiling := by
  refine ⟨rfl, rfl, by decide, by decide, fun grows => ?_, fun kept => ?_⟩
  · exact absurd (grows ⟨4, 0, 0, 0⟩ 5 (by decide)) (by decide)
  · exact absurd (kept 4) (by decide)

end ConfidencePolicy

end Reputation
