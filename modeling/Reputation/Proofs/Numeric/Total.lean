/-
**Sums.**

A sum is compared with another one term by term, or with a bound that its terms have in common. The
terms often stand in a vector, where they are compared place by place.

* `total_mono`: higher terms have a higher sum.
* `total_perm`: the order of the terms does not matter.
* `total_le`, `le_total`: a sum and a common bound of its terms.
* `total_weighted_le`, `le_total_weighted`: a weighted sum and a common bound of what is weighted.
* `forall₂_toList`: vectors that are related place by place are related as lists.
-/

import Mathlib.Data.List.Forall2
import Reputation.Numeric.Rounding

namespace Reputation

variable {values others : List Nat} {bound : Nat}

/-- **Higher terms have a higher sum.** -/
theorem total_mono (below : List.Forall₂ (· ≤ ·) values others) : total values ≤ total others := by
  induction below with
  | nil => exact Nat.le_refl _
  | cons le _ ih => exact Nat.add_le_add le ih

theorem total_perm (same : values.Perm others) : total values = total others := by
  induction same with
  | nil => rfl
  | cons value _ ih => rw [total, total, ih]
  | swap first second rest => exact Nat.add_left_comm second first (total rest)
  | trans _ _ first second => exact first.trans second

theorem total_le (within : ∀ value ∈ values, value ≤ bound) :
    total values ≤ values.length * bound := by
  induction values with
  | nil => exact Nat.zero_le _
  | cons value rest ih =>
    obtain ⟨here, further⟩ := List.forall_mem_cons.mp within
    have others := ih further
    rw [total, List.length_cons, Nat.succ_mul]
    omega

theorem le_total (within : ∀ value ∈ values, bound ≤ value) :
    values.length * bound ≤ total values := by
  induction values with
  | nil => exact Nat.le_of_eq (Nat.zero_mul _)
  | cons value rest ih =>
    obtain ⟨here, further⟩ := List.forall_mem_cons.mp within
    have others := ih further
    rw [total, List.length_cons, Nat.succ_mul]
    omega

/-! ### Weighted sums -/

section Weighted

variable {Item : Type} {value : Item → Nat} {items : List Item}

/-- A weighted sum and a common upper bound of what is weighted. -/
theorem total_weighted_le (weight : Item → Nat)
    (within : ∀ item ∈ items, value item ≤ bound) :
    total (items.map fun item => value item * weight item) ≤ bound * total (items.map weight) := by
  induction items with
  | nil => exact Nat.zero_le _
  | cons item rest ih =>
    obtain ⟨here, further⟩ := List.forall_mem_cons.mp within
    rw [List.map_cons, List.map_cons, total, total, Nat.mul_add]
    exact Nat.add_le_add (Nat.mul_le_mul_right _ here) (ih further)

/-- A weighted sum and a common lower bound of what is weighted. -/
theorem le_total_weighted (weight : Item → Nat)
    (within : ∀ item ∈ items, bound ≤ value item) :
    bound * total (items.map weight) ≤ total (items.map fun item => value item * weight item) := by
  induction items with
  | nil => exact Nat.le_refl _
  | cons item rest ih =>
    obtain ⟨here, further⟩ := List.forall_mem_cons.mp within
    rw [List.map_cons, List.map_cons, total, total, Nat.mul_add]
    exact Nat.add_le_add (Nat.mul_le_mul_right _ here) (ih further)

end Weighted

/-! ### Sums over vectors -/

/-- **Vectors that are related place by place are related as lists.** -/
theorem forall₂_toList {Item Other : Type} {Related : Item → Other → Prop} {size : Nat}
    {first : Vector Item size} {second : Vector Other size}
    (related : ∀ index : Fin size, Related (first.get index) (second.get index)) :
    List.Forall₂ Related first.toList second.toList := by
  refine List.forall₂_iff_get.mpr ⟨by simp, fun index bound boundToo => ?_⟩
  have place : index < size := by simpa using bound
  have here : Related first[index] second[index] := related ⟨index, place⟩
  simpa using here

end Reputation
