/-
**Risk is a mean of its signals.**

Each signal is a percentage, and moves in one direction only with what it is measured by. The
weights of a configuration within bounds add up to a hundred. So risk is a mean of the signals,
rounded once and never clamped, and moves with what the signals are measured by in the same
direction as they do.

* `RiskSignals.pairs`: the signals with their weights; `percentage_of_mem`: each is a percentage.
* `RiskSignals.Below`: signals that are at most as high as others; `weighted_mono`: so is their
  mean.
* `RiskInputs.CalmerThan`: what gives no higher signal; `compute_mono`.
* **`risk_is_weighted_mean`**: what risk is, between which signals it lies and how it moves.
-/

import Reputation.Proofs.Config.Bounds
import Reputation.Proofs.Numeric.Rounding
import Reputation.Proofs.Numeric.Total
import Reputation.Score.Risk

namespace Reputation

namespace RiskSignals

variable {signals first second : RiskSignals} {policy : RiskPolicy}

/-! ### Percentages -/

theorem sybilOf_le (feedbacks diversity : Nat) : sybilOf feedbacks diversity ≤ riskMax := by
  unfold sybilOf
  split
  · exact Nat.zero_le _
  · exact Nat.sub_le _ _

theorem stagnationOf_le (feedbacks samples volatility reference : Nat) :
    stagnationOf feedbacks samples volatility reference ≤ riskMax := by
  unfold stagnationOf
  split
  · exact Nat.sub_le _ _
  · exact Nat.zero_le _

theorem shockOf_le (gap reference negative : Nat) : shockOf gap reference negative ≤ riskMax :=
  Nat.max_le.mpr ⟨proportion_le _ _ _, proportion_le _ _ _⟩

theorem arrivalOf_le (seeded : Bool) (arrival reference : Nat) :
    arrivalOf seeded arrival reference ≤ riskMax := by
  unfold arrivalOf
  split
  · exact proportion_le _ _ _
  · exact Nat.zero_le _

theorem toNat_percentage {signal : Nat} (percentage : signal ≤ riskMax) :
    (UInt8.ofNat signal).toNat = signal :=
  UInt8.toNat_ofNat_of_lt' (Nat.lt_of_le_of_lt percentage (by decide))

theorem percentage_mono {signal higher : Nat} (le : signal ≤ higher)
    (percentage : higher ≤ riskMax) : UInt8.ofNat signal ≤ UInt8.ofNat higher := by
  rw [UInt8.le_iff_toNat_le, toNat_percentage percentage,
    toNat_percentage (Nat.le_trans le percentage)]
  exact le

/-- The signals, each with its weight. -/
def pairs (signals : RiskSignals) (policy : RiskPolicy) : List (UInt8 × UInt8) :=
  [(signals.sybil, policy.sybilWeight), (signals.burst, policy.burstWeight),
    (signals.stagnation, policy.stagnationWeight), (signals.shock, policy.shockWeight),
    (signals.volatility, policy.volatilityWeight), (signals.arrival, policy.arrivalWeight)]

theorem percentage_of_mem (inputs : RiskInputs) (policy : RiskPolicy) (samples : UInt32) :
    ∀ pair ∈ (compute inputs policy samples).pairs policy, pair.1.toNat ≤ riskMax := by
  have byte {signal : Nat} (percentage : signal ≤ riskMax) :
      (UInt8.ofNat signal).toNat ≤ riskMax :=
    Nat.le_trans (Nat.mod_le _ _) percentage
  simp only [pairs, List.forall_mem_cons, List.not_mem_nil, false_implies, implies_true, and_true]
  exact ⟨byte (sybilOf_le _ _), byte (proportion_le _ _ _), byte (stagnationOf_le _ _ _ _),
    byte (shockOf_le _ _ _), byte (proportion_le _ _ _), byte (arrivalOf_le _ _ _)⟩

/-! ### The mean -/

theorem total_pairs (signals : RiskSignals) (policy : RiskPolicy) :
    total ((signals.pairs policy).map fun pair => pair.1.toNat * pair.2.toNat) =
      signals.weightedSum policy := by
  simp only [pairs, List.map_cons, List.map_nil, total, weightedSum, Nat.add_zero, Nat.add_assoc]

theorem total_weights (signals : RiskSignals) (policy : RiskPolicy) :
    total ((signals.pairs policy).map fun pair => pair.2.toNat) = policy.weightSum := by
  simp only [pairs, List.map_cons, List.map_nil, total, RiskPolicy.weightSum, Nat.add_zero,
    Nat.add_assoc]

/-- A common upper bound of the signals is one of their mean. -/
theorem mean_le {bound : Nat} (whole : policy.weightSum = 100)
    (within : ∀ pair ∈ signals.pairs policy, pair.1.toNat ≤ bound) :
    divHalfUp (signals.weightedSum policy) 100 ≤ bound := by
  have sum := total_weighted_le (fun pair => pair.2.toNat) within
  rw [total_pairs, total_weights, whole, Nat.mul_comm] at sum
  exact divHalfUp_le sum

/-- A common lower bound of the signals is one of their mean. -/
theorem le_mean {bound : Nat} (whole : policy.weightSum = 100)
    (within : ∀ pair ∈ signals.pairs policy, bound ≤ pair.1.toNat) :
    bound ≤ divHalfUp (signals.weightedSum policy) 100 := by
  have sum := le_total_weighted (fun pair => pair.2.toNat) within
  rw [total_pairs, total_weights, whole, Nat.mul_comm] at sum
  exact le_divHalfUp (by decide) sum

/-- **The mean of percentages is not clamped.** -/
theorem toNat_weighted (whole : policy.weightSum = 100)
    (percentages : ∀ pair ∈ signals.pairs policy, pair.1.toNat ≤ riskMax) :
    (signals.weighted policy).toNat = divHalfUp (signals.weightedSum policy) 100 := by
  have mean := mean_le whole percentages
  rw [weighted, Nat.min_eq_left mean, toNat_percentage mean]

theorem exists_le_mean (whole : policy.weightSum = 100) (signals : RiskSignals) :
    ∃ low ∈ signals.pairs policy,
      low.1.toNat ≤ divHalfUp (signals.weightedSum policy) 100 := by
  refine Classical.byContradiction fun none => ?_
  have higher : ∀ pair ∈ signals.pairs policy,
      divHalfUp (signals.weightedSum policy) 100 < pair.1.toNat := fun pair among =>
    Nat.lt_of_not_le fun low => none ⟨pair, among, low⟩
  exact Nat.lt_irrefl _ (le_mean whole higher)

theorem exists_mean_le (whole : policy.weightSum = 100) (signals : RiskSignals) :
    ∃ high ∈ signals.pairs policy,
      divHalfUp (signals.weightedSum policy) 100 ≤ high.1.toNat := by
  refine Classical.byContradiction fun none => ?_
  have lower : ∀ pair ∈ signals.pairs policy,
      pair.1.toNat < divHalfUp (signals.weightedSum policy) 100 := fun pair among =>
    Nat.lt_of_not_le fun high => none ⟨pair, among, high⟩
  have first := lower (signals.sybil, policy.sybilWeight) List.mem_cons_self
  have below := mean_le whole fun pair among => Nat.le_sub_one_of_lt (lower pair among)
  omega

/-- No signal is higher than that of others. -/
structure Below (first second : RiskSignals) : Prop where
  sybil : first.sybil ≤ second.sybil
  burst : first.burst ≤ second.burst
  stagnation : first.stagnation ≤ second.stagnation
  shock : first.shock ≤ second.shock
  volatility : first.volatility ≤ second.volatility
  arrival : first.arrival ≤ second.arrival

theorem weightedSum_mono (below : first.Below second) (policy : RiskPolicy) :
    first.weightedSum policy ≤ second.weightedSum policy := by
  have product {signal higher : UInt8} (le : signal ≤ higher) (weight : UInt8) :
      signal.toNat * weight.toNat ≤ higher.toNat * weight.toNat :=
    Nat.mul_le_mul_right _ (UInt8.le_iff_toNat_le.mp le)
  unfold weightedSum
  refine Nat.add_le_add (Nat.add_le_add (Nat.add_le_add (Nat.add_le_add (Nat.add_le_add ?_ ?_) ?_)
    ?_) ?_) ?_
  · exact product below.sybil _
  · exact product below.burst _
  · exact product below.stagnation _
  · exact product below.shock _
  · exact product below.volatility _
  · exact product below.arrival _

/-- **Higher signals have a higher mean.** -/
theorem weighted_mono (below : first.Below second) (policy : RiskPolicy) :
    first.weighted policy ≤ second.weighted policy := by
  have means := divHalfUp_mono 100 (weightedSum_mono below policy)
  refine percentage_mono ?_ (Nat.min_le_right _ _)
  omega

end RiskSignals

/-! ### What moves the signals -/

/-- An entity is calmer than another one if its raters are at least as diverse, its events at least
as far apart, and its pressures and the distance of its averages at most as high, all else that risk
is made of being equal. -/
structure RiskInputs.CalmerThan (calm wild : RiskInputs) : Prop where
  feedbacks : calm.feedbacks = wild.feedbacks
  diversity : wild.diversity ≤ calm.diversity
  burst : calm.statistics.burst ≤ wild.statistics.burst
  negative : calm.statistics.negative ≤ wild.statistics.negative
  gap : distance calm.statistics.fast.toNat calm.statistics.slow.toNat ≤
    distance wild.statistics.fast.toNat wild.statistics.slow.toNat
  volatility : calm.statistics.volatility = wild.statistics.volatility
  arrivalSeeded : calm.statistics.arrivalSeeded = wild.statistics.arrivalSeeded
  arrival : wild.statistics.arrival ≤ calm.statistics.arrival

namespace RiskSignals

theorem sybilOf_anti {diversity higher : Nat} (feedbacks : Nat) (le : diversity ≤ higher) :
    sybilOf feedbacks higher ≤ sybilOf feedbacks diversity := by
  unfold sybilOf
  split
  · exact Nat.le_refl _
  · exact Nat.sub_le_sub_left (proportion_mono _ _ le) _

theorem shockOf_mono {gap wider negative higher : Nat} (reference : Nat) (apart : gap ≤ wider)
    (pressed : negative ≤ higher) :
    shockOf gap reference negative ≤ shockOf wider reference higher := by
  have gaps := proportion_mono reference riskMax apart
  have pressures := proportion_mono pressureMax riskMax pressed
  unfold shockOf
  omega

theorem arrivalOf_anti {arrival later : Nat} (seeded : Bool) (reference : Nat)
    (le : arrival ≤ later) :
    arrivalOf seeded later reference ≤ arrivalOf seeded arrival reference := by
  unfold arrivalOf
  split
  · rename_i dense
    rw [if_pos ⟨dense.1, Nat.lt_of_le_of_lt le dense.2⟩]
    exact proportion_mono _ _ (Nat.sub_le_sub_left le _)
  · exact Nat.zero_le _

/-- **A calmer entity has no higher signal.** -/
theorem compute_mono {calm wild : RiskInputs} (calmer : calm.CalmerThan wild) (policy : RiskPolicy)
    (samples : UInt32) : (compute calm policy samples).Below (compute wild policy samples) := by
  have diversity := UInt8.le_iff_toNat_le.mp calmer.diversity
  have burst := UInt8.le_iff_toNat_le.mp calmer.burst
  have negative := UInt8.le_iff_toNat_le.mp calmer.negative
  have arrival := UInt32.le_iff_toNat_le.mp calmer.arrival
  dsimp only [compute]
  rw [calmer.feedbacks, calmer.volatility, calmer.arrivalSeeded]
  exact {
    sybil := percentage_mono (sybilOf_anti _ diversity) (sybilOf_le _ _)
    burst := percentage_mono (proportion_mono _ _ burst) (proportion_le _ _ _)
    stagnation := UInt8.le_refl _
    shock := percentage_mono (shockOf_mono _ calmer.gap negative) (shockOf_le _ _ _)
    volatility := UInt8.le_refl _
    arrival := percentage_mono (arrivalOf_anti _ _ arrival) (arrivalOf_le _ _ _) }

end RiskSignals

/-! ### Risk -/

/-- **Risk is a mean of its signals and moves as they do.** For every configuration within bounds,
all inputs and every least number of samples: each signal is a percentage; risk is the sum of the
signals, each times its weight, by a hundred, a half going up, which the clamp never changes; some
signal is at most as high as the risk and some at least; and of two entities the calmer one has no
higher risk. -/
theorem risk_is_weighted_mean {policy : RiskPolicy} (within : policy.check = .ok ())
    (inputs : RiskInputs) (samples : UInt32) :
    let pairs := (RiskSignals.compute inputs policy samples).pairs policy
    let sum := total (pairs.map fun pair => pair.1.toNat * pair.2.toNat)
    (∀ pair ∈ pairs, pair.1.toNat ≤ 100) ∧
      (2 * sum + 100) / 200 ≤ 100 ∧
      (riskOf inputs policy samples).toNat = (2 * sum + 100) / 200 ∧
      (∃ low ∈ pairs, low.1 ≤ riskOf inputs policy samples) ∧
      (∃ high ∈ pairs, riskOf inputs policy samples ≤ high.1) ∧
      ∀ wild, inputs.CalmerThan wild →
        riskOf inputs policy samples ≤ riskOf wild policy samples := by
  have whole := policy.weightSum_of_check within
  have percentages := RiskSignals.percentage_of_mem inputs policy samples
  have risk : (riskOf inputs policy samples).toNat = _ :=
    RiskSignals.toNat_weighted whole percentages
  have rounded (sum : Nat) : divHalfUp sum 100 = (2 * sum + 100) / 200 :=
    divHalfUp_eq (by decide) sum
  obtain ⟨low, amongLow, below⟩ :=
    RiskSignals.exists_le_mean whole (.compute inputs policy samples)
  obtain ⟨high, amongHigh, above⟩ :=
    RiskSignals.exists_mean_le whole (.compute inputs policy samples)
  dsimp only
  rw [RiskSignals.total_pairs, ← rounded]
  refine ⟨percentages, RiskSignals.mean_le whole percentages, risk, ⟨low, amongLow, ?_⟩,
    ⟨high, amongHigh, ?_⟩, fun wild calmer => ?_⟩
  · rwa [UInt8.le_iff_toNat_le, risk]
  · rwa [UInt8.le_iff_toNat_le, risk]
  · exact RiskSignals.weighted_mono (RiskSignals.compute_mono calmer policy samples) policy

/-- An entity that one rater floods with low scores, and one that is calmer. -/
def flooded : RiskInputs :=
  { feedbacks := 100
    diversity := 0
    statistics := { fast := 10000, burst := 255, negative := 255, arrivalSeeded := true } }

/-- An entity as busy as the flooded one, but with more raters and without low scores. -/
def busy : RiskInputs :=
  { feedbacks := 100
    diversity := 128
    statistics := { fast := 6000, slow := 5000, burst := 255, arrivalSeeded := true } }

/-- The risk of the busy entity is the mean of its signals and is no higher than that of the flooded
one. -/
theorem busy_is_weighted_mean :
    ({} : RiskPolicy).check = .ok () ∧ busy.CalmerThan flooded ∧
      (riskOf busy {} 5).toNat = 66 ∧ riskOf busy {} 5 ≤ riskOf flooded {} 5 := by
  have within : ({} : RiskPolicy).check = .ok () := rfl
  have calmer : busy.CalmerThan flooded := by constructor <;> decide
  obtain ⟨-, -, mean, -, -, moves⟩ := risk_is_weighted_mean within busy 5
  exact ⟨within, calmer, mean.trans (by decide), moves flooded calmer⟩

end Reputation
