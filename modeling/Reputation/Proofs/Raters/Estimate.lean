/-
**The estimate falls at most once.**

As raters are added, registers rise. The harmonic mean over them then rises as well, and the number
of empty registers falls, so that the count by the empty ones rises too. Each of the two estimates
is monotone. The empty registers are counted only while the harmonic mean is small and some register
is empty; once that is over it stays so. At this one switch the harmonic mean may be below the count
that it takes the place of, and there the estimate falls.

* `zeros_anti`, `linearCount_anti`, `harmonicCount_mono`: what the two estimates are made of.
* `CountsEmpty`: whether the empty registers are counted; `CountsEmpty.of_le`: they were counted
  before if they are now.
* `lt_estimate_iff`: when the estimate falls.
* **`estimate_falls_once`**: it falls at no other time, and not a second time.
-/

import Reputation.Proofs.Numeric.Logarithm
import Reputation.Proofs.Numeric.Total
import Reputation.Proofs.Raters.Semilattice

namespace Reputation

namespace Cardinality

variable {cardinality first second : Cardinality}

/-! ### Two ways to estimate -/

/-- **Fewer registers are empty after more raters.** -/
theorem zeros_anti (below : first ≤ second) : second.zeros ≤ first.zeros := by
  have ranks := forall₂_toList below
  unfold zeros
  generalize first.registers.toList = lower at ranks ⊢
  generalize second.registers.toList = higher at ranks ⊢
  induction ranks with
  | nil => exact Nat.le_refl _
  | @cons rank raised _ _ le _ ih =>
    have le := Fin.le_def.mp le
    simp only [List.countP_cons, decide_eq_true_eq]
    split <;> split <;> omega

/-- The sum of what the registers weigh in the harmonic mean. -/
def weights (cardinality : Cardinality) : Nat :=
  total (cardinality.registers.toList.map fun rank => 2 ^ (rankMax - rank.val))

theorem registerCount_le_weights (cardinality : Cardinality) :
    registerCount ≤ cardinality.weights := by
  have each : ∀ weight ∈ cardinality.registers.toList.map fun rank => 2 ^ (rankMax - rank.val),
      1 ≤ weight := by
    intro weight among
    obtain ⟨rank, -, rfl⟩ := List.mem_map.mp among
    exact Nat.one_le_two_pow
  have counted := le_total each
  rwa [List.length_map, Vector.length_toList, Nat.mul_one] at counted

theorem weights_anti (below : first ≤ second) : second.weights ≤ first.weights := by
  have lighter (rank raised : Fin 16) (le : raised ≤ rank) :
      2 ^ (rankMax - rank.val) ≤ 2 ^ (rankMax - raised.val) :=
    Nat.pow_le_pow_right (by decide) (Nat.sub_le_sub_left (Fin.le_def.mp le) rankMax)
  exact total_mono (List.rel_map lighter (forall₂_toList below).flip)

theorem harmonicCount_eq (cardinality : Cardinality) :
    cardinality.harmonicCount = divHalfUp (meanScale * 2 ^ rankMax) cardinality.weights := rfl

/-- **The harmonic mean is higher after more raters.** -/
theorem harmonicCount_mono (below : first ≤ second) :
    first.harmonicCount ≤ second.harmonicCount := by
  rw [harmonicCount_eq, harmonicCount_eq]
  exact divHalfUp_anti _ (Nat.lt_of_lt_of_le (by decide) second.registerCount_le_weights)
    (weights_anti below)

theorem harmonicCount_le (cardinality : Cardinality) : cardinality.harmonicCount ≤ estimateMax := by
  rw [harmonicCount_eq]
  exact Nat.le_trans (divHalfUp_anti _ (by decide) cardinality.registerCount_le_weights)
    (by decide)

/-- **The count by the empty registers is higher if fewer are empty.** -/
theorem linearCount_anti {zeros more : Nat} (le : zeros ≤ more) :
    linearCount more ≤ linearCount zeros :=
  divHalfUp_mono _ (Nat.mul_le_mul_right _
    (Nat.mul_le_mul_left _ (Nat.sub_le_sub_left (log2Fixed_mono le) _)))

/-- The count by the empty registers when one of them is left. -/
def linearCountMax : Nat := 1420

theorem linearCount_one : linearCount 1 = linearCountMax := by decide

theorem linearCount_le {zeros : Nat} (some : 0 < zeros) : linearCount zeros ≤ linearCountMax := by
  rw [← linearCount_one]
  exact linearCount_anti some

/-! ### The switch -/

/-- Whether the estimate is told by the number of empty registers. -/
def CountsEmpty (cardinality : Cardinality) : Prop :=
  cardinality.harmonicCount ≤ smallRange ∧ 0 < cardinality.zeros

instance (cardinality : Cardinality) : Decidable cardinality.CountsEmpty :=
  inferInstanceAs (Decidable (_ ∧ _))

/-- **Once the empty registers are not counted any more, they never are again.** -/
theorem CountsEmpty.of_le (counts : second.CountsEmpty) (below : first ≤ second) :
    first.CountsEmpty :=
  ⟨Nat.le_trans (harmonicCount_mono below) counts.1, Nat.lt_of_lt_of_le counts.2 (zeros_anti below)⟩

theorem toNat_estimate (cardinality : Cardinality) :
    cardinality.estimate.toNat =
      min (if cardinality.CountsEmpty then linearCount cardinality.zeros
        else cardinality.harmonicCount) estimateMax :=
  UInt32.toNat_ofNat_of_lt' (Nat.lt_of_le_of_lt (Nat.min_le_right _ _) (by decide))

theorem CountsEmpty.toNat_estimate (counts : cardinality.CountsEmpty) :
    cardinality.estimate.toNat = linearCount cardinality.zeros := by
  rw [Cardinality.toNat_estimate, if_pos counts]
  exact Nat.min_eq_left (Nat.le_trans (linearCount_le counts.2) (by decide))

theorem toNat_estimate_of_not (counts : ¬ cardinality.CountsEmpty) :
    cardinality.estimate.toNat = cardinality.harmonicCount := by
  rw [Cardinality.toNat_estimate, if_neg counts]
  exact Nat.min_eq_left cardinality.harmonicCount_le

theorem estimate_le (cardinality : Cardinality) : cardinality.estimate.toNat ≤ estimateMax := by
  rw [toNat_estimate]
  exact Nat.min_le_right _ _

/-- After the switch the estimate never falls. -/
theorem estimate_mono_of_not (counts : ¬ first.CountsEmpty) (below : first ≤ second) :
    first.estimate ≤ second.estimate := by
  rw [UInt32.le_iff_toNat_le, toNat_estimate_of_not counts,
    toNat_estimate_of_not fun later => counts (later.of_le below)]
  exact harmonicCount_mono below

/-- **The estimate falls exactly if the empty registers were counted, are not any more, and said
more than the harmonic mean now says.** -/
theorem lt_estimate_iff (below : first ≤ second) :
    second.estimate < first.estimate ↔
      first.CountsEmpty ∧ ¬ second.CountsEmpty ∧
        second.harmonicCount < linearCount first.zeros := by
  by_cases counted : first.CountsEmpty
  · by_cases counts : second.CountsEmpty
    · have rises : first.estimate ≤ second.estimate := by
        rw [UInt32.le_iff_toNat_le, counted.toNat_estimate, counts.toNat_estimate]
        exact linearCount_anti (zeros_anti below)
      exact iff_of_false (UInt32.not_lt.mpr rises) fun switched => switched.2.1 counts
    · rw [UInt32.lt_iff_toNat_lt, counted.toNat_estimate, toNat_estimate_of_not counts]
      simp only [counted, counts, not_false_eq_true, true_and]
  · exact iff_of_false (UInt32.not_lt.mpr (estimate_mono_of_not counted below))
      fun switched => counted switched.1

/-- **The estimate falls at most once as raters are added.** It never passes its highest value. When
registers rise, which is all that observing and joining do to them, the estimate does not fall,
unless the empty registers were counted before and are not any more, and had said more than the
harmonic mean now says. The estimate was small then, and it never falls again. -/
theorem estimate_falls_once (below : first ≤ second) :
    second.estimate.toNat ≤ estimateMax ∧
      (second.estimate < first.estimate ↔
        first.CountsEmpty ∧ ¬ second.CountsEmpty ∧
          second.harmonicCount < linearCount first.zeros) ∧
      (second.estimate < first.estimate → first.estimate.toNat ≤ linearCountMax ∧
        ∀ third fourth : Cardinality, second ≤ third → third ≤ fourth →
          third.estimate ≤ fourth.estimate) ∧
      (∀ fingerprint, second ≤ second.observe fingerprint) ∧
      ∀ other, second ≤ second.merge other ∧ other ≤ second.merge other := by
  refine ⟨second.estimate_le, lt_estimate_iff below, fun falls => ?_, second.le_observe,
    fun other => ⟨le_merge_left second other, le_merge_right second other⟩⟩
  obtain ⟨counted, counts, -⟩ := (lt_estimate_iff below).mp falls
  refine ⟨?_, fun third fourth above further =>
    estimate_mono_of_not (fun later => counts (later.of_le above)) further⟩
  rw [counted.toNat_estimate]
  exact linearCount_le counted.2

/-- A rater who has not been observed yet. -/
def lastRater : Fingerprint := ⟨0⟩

/-- Every register but that of the last rater holds the lowest rank that is proposed. -/
def nearlyFull : Cardinality :=
  ⟨(Vector.replicate 256 (lowRank 1)).set (registerOf lastRater).val (lowRank 0)
    (registerOf lastRater).isLt⟩

theorem estimate_nearlyFull : nearlyFull.estimate = 1420 := by decide +kernel

theorem estimate_observe_lastRater : (nearlyFull.observe lastRater).estimate = 368 := by
  decide +kernel

/-- **One more rater lowers the estimate.** The one empty register that was left counts for 1420
raters, and registers with the lowest rank in each of them have a harmonic mean of 368. -/
theorem last_rater_lowers_estimate :
    nearlyFull ≤ nearlyFull.observe lastRater ∧ nearlyFull.estimate = 1420 ∧
      (nearlyFull.observe lastRater).estimate = 368 ∧
      ¬ nearlyFull.estimate ≤ (nearlyFull.observe lastRater).estimate := by
  refine ⟨le_observe nearlyFull lastRater, estimate_nearlyFull, estimate_observe_lastRater, ?_⟩
  rw [estimate_nearlyFull, estimate_observe_lastRater]
  decide

/-- After the last rater the estimate never falls again. -/
theorem nearlyFull_falls_once :
    nearlyFull ≤ nearlyFull.observe lastRater ∧
      (nearlyFull.observe lastRater).estimate < nearlyFull.estimate ∧
      nearlyFull.estimate.toNat ≤ linearCountMax ∧
      ∀ third fourth : Cardinality, nearlyFull.observe lastRater ≤ third → third ≤ fourth →
        third.estimate ≤ fourth.estimate := by
  have rises : nearlyFull ≤ nearlyFull.observe lastRater := le_observe nearlyFull lastRater
  have falls : (nearlyFull.observe lastRater).estimate < nearlyFull.estimate := by
    rw [estimate_nearlyFull, estimate_observe_lastRater]
    decide
  obtain ⟨-, -, once, -⟩ := estimate_falls_once rises
  exact ⟨rises, falls, once falls⟩

end Cardinality

end Reputation
