/-
**The drawdown is the deepest fall there was.**

The deepest fall of the slow average is that over all pairs of an earlier and a later time. The
statistics do not remember these averages: they keep the highest of them, the peak, and the deepest
fall so far, and compare the new average with the peak. That is enough, since of all falls to the
new average the one from the peak is the deepest. Scores and revocations alike end with this
comparison, wherever they moved the averages before.

* `levels`, `falls`: the values of a series, and its falls; `isGreatest_levels_succ`,
  `isGreatest_falls_succ`: how the highest and the deepest of them go on.
* `changed_tracks`: what every change does to the peak and to the drawdown.
* **`drawdown_is_deepest_fall`**: after any changes, the peak and the drawdown are those of the
  series of slow averages.
-/

import Mathlib.Order.Bounds.Basic
import Reputation.Proofs.Score.Dominance

namespace Reputation

/-! ### Series and their falls -/

/-- The values of a series up to a time. -/
def levels (series : Nat → Nat) (last : Nat) : Set Nat :=
  {value | ∃ time ≤ last, value = series time}

/-- The falls of a series up to a time, zero where it does not fall. -/
def falls (series : Nat → Nat) (last : Nat) : Set Nat :=
  {fall | ∃ earlier later, earlier ≤ later ∧ later ≤ last ∧
    fall = series earlier - series later}

section Series

variable {series : Nat → Nat} {last peak drawdown : Nat}

theorem isGreatest_levels_zero : IsGreatest (levels series 0) (series 0) := by
  refine ⟨⟨0, Nat.le_refl _, rfl⟩, ?_⟩
  rintro _ ⟨time, first, rfl⟩
  obtain rfl := Nat.le_zero.mp first
  exact Nat.le_refl _

theorem isGreatest_falls_zero : IsGreatest (falls series 0) 0 := by
  refine ⟨⟨0, 0, Nat.le_refl _, Nat.le_refl _, (Nat.sub_self _).symm⟩, ?_⟩
  rintro _ ⟨earlier, later, before, first, rfl⟩
  obtain rfl := Nat.le_zero.mp first
  obtain rfl := Nat.le_zero.mp before
  exact Nat.le_of_eq (Nat.sub_self _)

theorem isGreatest_levels_succ (highest : IsGreatest (levels series last) peak) :
    IsGreatest (levels series (last + 1)) (max peak (series (last + 1))) := by
  obtain ⟨⟨time, past, rfl⟩, bound⟩ := highest
  constructor
  · rcases Nat.le_total (series (last + 1)) (series time) with lower | higher
    · exact ⟨time, by omega, Nat.max_eq_left lower⟩
    · exact ⟨last + 1, Nat.le_refl _, Nat.max_eq_right higher⟩
  · rintro _ ⟨other, upTo, rfl⟩
    rcases Nat.le_succ_iff.mp upTo with past | rfl
    · exact Nat.le_trans (bound ⟨other, past, rfl⟩) (Nat.le_max_left _ _)
    · exact Nat.le_max_right _ _

/-- **Of all falls to the new value the one from the peak is the deepest.** -/
theorem isGreatest_falls_succ (highest : IsGreatest (levels series last) peak)
    (deepest : IsGreatest (falls series last) drawdown) :
    IsGreatest (falls series (last + 1))
      (max drawdown (max peak (series (last + 1)) - series (last + 1))) := by
  obtain ⟨⟨top, upTo, reached⟩, above⟩ := isGreatest_levels_succ highest
  obtain ⟨⟨earlier, later, before, past, fell⟩, bound⟩ := deepest
  constructor
  · rcases Nat.le_total (max peak (series (last + 1)) - series (last + 1)) drawdown with
      shallow | deep
    · exact ⟨earlier, later, before, by omega, by rw [Nat.max_eq_left shallow, fell]⟩
    · exact ⟨top, last + 1, upTo, Nat.le_refl _, by rw [Nat.max_eq_right deep, reached]⟩
  · rintro _ ⟨one, two, ordered, within, rfl⟩
    rcases Nat.le_succ_iff.mp within with old | rfl
    · exact Nat.le_trans (bound ⟨one, two, ordered, old, rfl⟩) (Nat.le_max_left _ _)
    · exact Nat.le_trans (Nat.sub_le_sub_right (above ⟨one, ordered, rfl⟩) _)
        (Nat.le_max_right _ _)

end Series

/-! ### Changes of the statistics -/

namespace Statistics

/-- What changes the statistics of an entity. -/
inductive Change where
  /-- A score was accepted. -/
  | scored (sample : Sample) (policy : StatisticsPolicy)
  /-- A score was revoked. -/
  | revoked (score : UInt8) (liveMean : Option UInt8) (policy : StatisticsPolicy)

/-- The statistics after a change. -/
def changed (statistics : Statistics) : Change → Statistics
  | .scored sample policy => statistics.update sample policy
  | .revoked score liveMean policy => statistics.correct score liveMean policy

/-- The statistics after some changes, there being none before. -/
def after (changes : List Change) : Statistics := changes.foldl changed {}

theorem after_concat (changes : List Change) (change : Change) :
    after (changes ++ [change]) = (after changes).changed change := by
  unfold after
  rw [List.foldl_append, List.foldl_cons, List.foldl_nil]

theorem toNat_drawdown_trackDrawdown (statistics : Statistics) :
    statistics.trackDrawdown.drawdown.toNat =
      max statistics.drawdown.toNat
        (max statistics.peak.toNat statistics.slow.toNat - statistics.slow.toNat) := by
  have peak := statistics.peak.toNat_lt
  have slow := statistics.slow.toNat_lt
  have drawdown := statistics.drawdown.toNat_lt
  exact UInt32.toNat_ofNat_of_lt' (by change _ < 2 ^ 32; omega)

/-- The peak and the drawdown are those of before. -/
structure KeepsPeak (statistics moved : Statistics) : Prop where
  peak : moved.peak = statistics.peak
  drawdown : moved.drawdown = statistics.drawdown

/-- **A change moves the averages as it may and ends with bringing peak and drawdown up to date.** -/
theorem exists_changed (statistics : Statistics) (change : Change) :
    ∃ moved, KeepsPeak statistics moved ∧ statistics.changed change = moved.trackDrawdown := by
  cases change with
  | scored sample policy =>
    refine ⟨_, ?_, rfl⟩
    cases sample.repetition <;> cases sample.gap <;> exact ⟨rfl, rfl⟩
  | revoked score liveMean policy =>
    refine ⟨_, ?_, rfl⟩
    cases liveMean <;> split <;> exact ⟨rfl, rfl⟩

/-- **Every change compares the new average with the peak.** -/
theorem changed_tracks (statistics : Statistics) (change : Change) :
    let slow := (statistics.changed change).slow.toNat
    let peak := max statistics.peak.toNat slow
    (statistics.changed change).peak.toNat = peak ∧
      (statistics.changed change).drawdown.toNat =
        max statistics.drawdown.toNat (peak - slow) := by
  obtain ⟨moved, kept, ends⟩ := statistics.exists_changed change
  have slow : (statistics.changed change).slow = moved.slow := by
    rw [ends]
    rfl
  dsimp only
  rw [slow, ends, toNat_peak_trackDrawdown, toNat_drawdown_trackDrawdown, kept.peak, kept.drawdown]
  exact ⟨rfl, rfl⟩

/-- The slow average after the given number of changes. -/
def slowAfter (changes : List Change) (count : Nat) : Nat :=
  (after (changes.take count)).slow.toNat

theorem tracked (changes : List Change) {count : Nat} (upTo : count ≤ changes.length) :
    IsGreatest (levels (slowAfter changes) count) (after (changes.take count)).peak.toNat ∧
      IsGreatest (falls (slowAfter changes) count)
        (after (changes.take count)).drawdown.toNat := by
  induction count with
  | zero => exact ⟨isGreatest_levels_zero, isGreatest_falls_zero⟩
  | succ count ih =>
    obtain ⟨highest, deepest⟩ := ih (Nat.le_of_succ_le upTo)
    have next : after (changes.take (count + 1)) =
        (after (changes.take count)).changed changes[count] := by
      rw [List.take_succ_eq_append_getElem upTo, after_concat]
    obtain ⟨peak, drawdown⟩ := (after (changes.take count)).changed_tracks changes[count]
    rw [← next] at peak drawdown
    rw [peak, drawdown]
    exact ⟨isGreatest_levels_succ highest, isGreatest_falls_succ highest deepest⟩

/-- **The peak and the drawdown are those of the series of slow averages.** Whatever scores were
accepted and revoked, with whatever means and policies, the peak is the highest slow average that
there was, the zero of the beginning included, and the drawdown is the deepest fall from an average
to a later one. -/
theorem drawdown_is_deepest_fall (changes : List Change) :
    slowAfter changes 0 = 0 ∧
      IsGreatest (levels (slowAfter changes) changes.length) (after changes).peak.toNat ∧
      IsGreatest (falls (slowAfter changes) changes.length) (after changes).drawdown.toNat := by
  have tracks := tracked changes (Nat.le_refl _)
  rw [List.take_length] at tracks
  exact ⟨rfl, tracks⟩

end Statistics

end Reputation
