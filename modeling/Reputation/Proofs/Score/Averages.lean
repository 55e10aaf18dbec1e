/-
**An average settles on a sample that keeps coming.**

A step of an average ends between the average and its target, and moves an average that is off its
target by at least one unit, whatever the rate is: a rate of nothing still moves it by one unit, and
a rate above the whole takes it to the target. So the same target, repeated as often as the average
is units off, is reached, and the average stays there.

* `distance_blendWord_lt`: a step brings the average closer to its target.
* `iterate_blendWord`: repeated steps reach the target.
* **`settles_on_target`**: what a step does over the whole range of its word.
-/

import Mathlib.Logic.Function.Iterate
import Reputation.Proofs.Score.Dominance
import Reputation.Proofs.Words.Score

namespace Reputation

variable {old target : UInt32}

theorem blendWord_eq_self_iff (rate : UInt32) :
    blendWord old target.toNat rate = old ↔ old = target := by
  rw [← UInt32.toNat_inj, toNat_blendWord target.toNat_lt, blend_eq_self_iff, UInt32.toNat_inj]

theorem distance_blendWord_lt (off : old ≠ target) (rate : UInt32) :
    distance (blendWord old target.toNat rate).toNat target.toNat <
      distance old.toNat target.toNat := by
  rw [toNat_blendWord target.toNat_lt]
  exact distance_blend_lt (fun same => off (UInt32.toNat_inj.mp same)) _

/-- **As many steps as the average is units off reach the target.** A step that starts on the target
stays there, and any other takes at least one unit off the distance. -/
theorem iterate_blendWord {steps : Nat} (enough : distance old.toNat target.toNat ≤ steps)
    (rate : UInt32) : (fun held => blendWord held target.toNat rate)^[steps] old = target := by
  induction steps generalizing old with
  | zero =>
    have same : old.toNat = target.toNat := by
      unfold distance at enough
      omega
    exact UInt32.toNat_inj.mp same
  | succ steps ih =>
    rcases eq_or_ne old target with rfl | off
    · have stays : blendWord old old.toNat rate = old := (blendWord_eq_self_iff rate).mpr rfl
      exact Function.iterate_fixed (f := fun held => blendWord held old.toNat rate) stays _
    · rw [Function.iterate_succ_apply]
      have closer := distance_blendWord_lt off rate
      exact ih (by omega)

/-- **A step of an average over the whole range of its word.** For all words and every rate, zero
and rates above the whole included: the step has no fault; it ends between the average and its
target; it leaves the average where it is exactly if that is on its target; it is the higher the
higher the average and its target are; and repeated as often as the average is units off, or more
often, it ends on the target. -/
theorem settles_on_target (old target rate : UInt32) :
    blendWordChecked old target.toNat rate = .ok (blendWord old target.toNat rate) ∧
      (min old.toNat target.toNat ≤ (blendWord old target.toNat rate).toNat ∧
        (blendWord old target.toNat rate).toNat ≤ max old.toNat target.toNat) ∧
      (blendWord old target.toNat rate = old ↔ old = target) ∧
      (∀ higher further : UInt32, old ≤ higher → target ≤ further →
        blendWord old target.toNat rate ≤ blendWord higher further.toNat rate) ∧
      ∀ steps, distance old.toNat target.toNat ≤ steps →
        (fun held => blendWord held target.toNat rate)^[steps] old = target := by
  refine ⟨blendWordChecked_eq old target.toNat_lt rate, ⟨?_, ?_⟩, blendWord_eq_self_iff rate,
    fun higher further start aim => ?_, fun steps enough => iterate_blendWord enough rate⟩
  · rw [toNat_blendWord target.toNat_lt]
    exact le_blend (Nat.min_le_left _ _) (Nat.min_le_right _ _) _
  · exact toNat_blendWord_le (Nat.le_max_left _ _) (Nat.le_max_right _ _) rate
  · exact blendWord_mono start (UInt32.le_iff_toNat_le.mp aim) further.toNat_lt rate

/-- At a rate of nothing an average that is five units off takes five steps. -/
theorem idle_settles_on_target :
    blendWord 10 15 0 = 11 ∧ blendWord 10 15 0 ≤ blendWord 12 15 0 ∧
      (fun held => blendWord held 15 0)^[5] 10 = 15 := by
  obtain ⟨-, -, -, monotone, settles⟩ := settles_on_target 10 15 0
  exact ⟨by decide, monotone 12 15 (by decide) (by decide), settles 5 (by decide)⟩

end Reputation
