/-
**Registers know raters as a set.**

A register holds the highest rank that was proposed to it. Who proposed it, how often and in which
order cannot be told, so the registers of a list of raters are those of the set of its members, and
a rater who was observed before raises nothing.

* `Cardinality.tally`: the registers after a list of raters.
* `le_tally_iff`: what a register has reached, by the members of the list.
* **`tally_eq_of_mem_iff`**: lists with the same members have the same registers.
* `not_isRaisedBy_tally`, `observe_tally`: a member of the list raises nothing.
-/

import Mathlib.Data.List.Induction
import Reputation.Raters.Cardinality

namespace Reputation

namespace Cardinality

variable {fingerprint : Fingerprint} {fingerprints first second : List Fingerprint}

/-- The registers after some raters were observed, there being none before. -/
def tally (fingerprints : List Fingerprint) : Cardinality := fingerprints.foldl observe empty

theorem tally_concat (fingerprints : List Fingerprint) (fingerprint : Fingerprint) :
    tally (fingerprints ++ [fingerprint]) = (tally fingerprints).observe fingerprint := by
  unfold tally
  rw [List.foldl_append, List.foldl_cons, List.foldl_nil]

/-- A rank that a register has reached after one more rater was reached before, or the rater
proposes it. -/
theorem le_observe_iff (cardinality : Cardinality) (fingerprint : Fingerprint)
    (register : Fin 256) (rank : Fin 16) :
    rank ≤ (cardinality.observe fingerprint).registers[register] ↔
      rank ≤ cardinality.registers[register] ∨
        (registerOf fingerprint = register ∧ rank ≤ rankOf fingerprint) := by
  unfold observe
  split
  · rename_i raises
    have higher : cardinality.registers[registerOf fingerprint] < rankOf fingerprint :=
      of_decide_eq_true raises
    by_cases here : registerOf fingerprint = register
    · subst here
      have set : (cardinality.registers.set (registerOf fingerprint)
          (rankOf fingerprint))[registerOf fingerprint] = rankOf fingerprint :=
        Vector.getElem_set_self _
      rw [set]
      simp only [true_and]
      exact (or_iff_right_of_imp fun below => Fin.le_trans below (Fin.le_of_lt higher)).symm
    · have kept : (cardinality.registers.set (registerOf fingerprint)
          (rankOf fingerprint))[register] = cardinality.registers[register] :=
        Vector.getElem_set_ne _ _ fun same => here (Fin.ext same)
      rw [kept]
      simp only [here, false_and, or_false]
  · rename_i raisesNot
    have reached : rankOf fingerprint ≤ cardinality.registers[registerOf fingerprint] :=
      Fin.not_lt.mp fun higher => raisesNot (decide_eq_true higher)
    refine (or_iff_left_of_imp ?_).symm
    rintro ⟨rfl, below⟩
    exact Fin.le_trans below reached

theorem le_tally_iff (fingerprints : List Fingerprint) (register : Fin 256) (rank : Fin 16) :
    rank ≤ (tally fingerprints).registers[register] ↔
      rank = 0 ∨ ∃ fingerprint ∈ fingerprints,
        registerOf fingerprint = register ∧ rank ≤ rankOf fingerprint := by
  induction fingerprints using List.reverseRecOn with
  | nil =>
    have start : (tally []).registers[register] = 0 := Vector.getElem_replicate register.isLt
    simp [start]
  | append_singleton earlier fingerprint ih =>
    rw [tally_concat, le_observe_iff, ih]
    simp only [List.mem_append, List.mem_singleton, or_and_right, exists_or, exists_eq_left,
      or_assoc]

/-- Registers are known by the ranks that each of them has reached. -/
theorem eq_of_le_iff {one two : Cardinality}
    (reached : ∀ (register : Fin 256) (rank : Fin 16),
      rank ≤ one.registers.get register ↔ rank ≤ two.registers.get register) :
    one = two := by
  have registers : one.registers = two.registers := by
    refine Vector.ext fun index bound => ?_
    have here := reached ⟨index, bound⟩
    exact Fin.le_antisymm ((here _).mp (Fin.le_refl _)) ((here _).mpr (Fin.le_refl _))
  cases one
  cases two
  exact congrArg mk registers

/-- **Lists with the same members have the same registers.** -/
theorem tally_eq_of_mem_iff
    (same : ∀ fingerprint, fingerprint ∈ first ↔ fingerprint ∈ second) :
    tally first = tally second := by
  refine eq_of_le_iff fun register rank => (le_tally_iff first register rank).trans ?_
  simp only [same]
  exact (le_tally_iff second register rank).symm

/-- **A member of the list raises nothing.** -/
theorem not_isRaisedBy_tally (among : fingerprint ∈ fingerprints) :
    (tally fingerprints).isRaisedBy fingerprint = false := by
  have reached : rankOf fingerprint ≤ (tally fingerprints).registers[registerOf fingerprint] :=
    (le_tally_iff _ _ _).mpr (.inr ⟨fingerprint, among, rfl, Fin.le_refl _⟩)
  exact decide_eq_false (Fin.not_lt.mpr reached)

theorem observe_tally (among : fingerprint ∈ fingerprints) :
    (tally fingerprints).observe fingerprint = tally fingerprints := by
  rw [observe, not_isRaisedBy_tally among]
  rfl

end Cardinality

end Reputation
