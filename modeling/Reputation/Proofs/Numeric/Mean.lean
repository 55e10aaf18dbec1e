/-
**The mean of some bytes.**

The mean of some bytes is their sum divided by their number, a half going up. A bound that all of
them keep to is kept to by their mean. So the mean fits a byte as it is, and it is found between the
lowest and the highest of them. The order of the bytes does not matter, and a byte that is raised
never lowers the mean.

* `byteTotal`: the sum of some bytes, and what bounds it.
* `meanHalfUp_eq`: there is a mean of everything but an empty list, and nothing is cut off it.
* `mean_between`: it lies between the lowest and the highest byte.
* `meanHalfUp_perm`: it does not depend on their order.
* **`meanHalfUp_mono`**, `mean_le_of_set`: higher bytes have a higher mean.
-/

import Reputation.Proofs.Numeric.Rounding
import Reputation.Proofs.Numeric.Total

namespace Reputation

variable {values others : List UInt8} {mean : UInt8} {bound : Nat}

/-- The higher of two bytes is one of them, and below what both are below. -/
instance lawfulOrderMaxByte : Std.LawfulOrderMax UInt8 where
  max_eq_or first second := by
    rcases Decidable.em (first ≤ second) with le | above
    · exact .inr (if_pos le)
    · exact .inl (if_neg above)
  max_le_iff first second bound := by
    show (if first ≤ second then second else first) ≤ bound ↔ _
    simp only [UInt8.le_iff_toNat_le]
    split <;> omega

/-! ### Sums of bytes -/

/-- The sum of some bytes. -/
def byteTotal (values : List UInt8) : Nat := total (values.map UInt8.toNat)

theorem byteTotal_le (within : ∀ value ∈ values, value.toNat ≤ bound) :
    byteTotal values ≤ values.length * bound := by
  have bounded := total_le (List.forall_mem_map.mpr within)
  rwa [List.length_map] at bounded

theorem le_byteTotal (within : ∀ value ∈ values, bound ≤ value.toNat) :
    values.length * bound ≤ byteTotal values := by
  have bounded := le_total (List.forall_mem_map.mpr within)
  rwa [List.length_map] at bounded

/-- No byte is above 255. -/
theorem byteTotal_le_length (values : List UInt8) : byteTotal values ≤ values.length * 255 :=
  byteTotal_le fun value _ => Nat.le_of_lt_succ value.toNat_lt

theorem byteTotal_perm (same : values.Perm others) : byteTotal values = byteTotal others :=
  total_perm (same.map UInt8.toNat)

theorem byteTotal_mono (below : List.Forall₂ (· ≤ ·) values others) :
    byteTotal values ≤ byteTotal others :=
  total_mono (List.rel_map (fun _ _ le => UInt8.le_iff_toNat_le.mp le) below)

/-! ### Means -/

/-- The rounded mean of some bytes is no higher than a byte can be. -/
theorem divHalfUp_byteTotal_le (values : List UInt8) :
    divHalfUp (byteTotal values) values.length ≤ 255 :=
  divHalfUp_le (byteTotal_le_length values)

/-- **There is a mean of everything but an empty list**, and nothing is cut off it. -/
theorem meanHalfUp_eq (nonempty : values ≠ []) :
    meanHalfUp values = some (UInt8.ofNat (divHalfUp (byteTotal values) values.length)) := by
  have low := divHalfUp_byteTotal_le values
  rw [meanHalfUp, if_neg (by rwa [List.isEmpty_iff]), ← byteTotal, Nat.min_eq_left low]

/-- The mean as a number. -/
theorem toNat_mean (found : meanHalfUp values = some mean) :
    mean.toNat = divHalfUp (byteTotal values) values.length := by
  have low := divHalfUp_byteTotal_le values
  have nonempty : values ≠ [] := by
    rintro rfl
    cases found
  rw [meanHalfUp_eq nonempty] at found
  obtain rfl := Option.some.inj found
  exact UInt8.toNat_ofNat_of_lt' (Nat.lt_succ_of_le low)

/-- **The mean lies between the lowest and the highest byte.** -/
theorem mean_between (nonempty : values ≠ []) (found : meanHalfUp values = some mean) :
    values.min nonempty ≤ mean ∧ mean ≤ values.max nonempty := by
  rw [UInt8.le_iff_toNat_le, UInt8.le_iff_toNat_le, toNat_mean found]
  constructor
  · refine le_divHalfUp (List.length_pos_iff.mpr nonempty) (le_byteTotal fun value among => ?_)
    exact UInt8.le_iff_toNat_le.mp (List.min_le_of_mem among)
  · refine divHalfUp_le (byteTotal_le fun value among => ?_)
    exact UInt8.le_iff_toNat_le.mp (List.le_max_of_mem among)

/-- **The order of the bytes does not matter.** -/
theorem meanHalfUp_perm (same : values.Perm others) : meanHalfUp values = meanHalfUp others := by
  rcases eq_or_ne values [] with rfl | nonempty
  · rw [List.Perm.nil_eq same]
  · have kept : others ≠ [] := fun empty => nonempty (empty ▸ same).eq_nil
    rw [meanHalfUp_eq nonempty, meanHalfUp_eq kept, byteTotal_perm same, same.length_eq]

/-- **Higher bytes have a higher mean.** -/
theorem meanHalfUp_mono (below : List.Forall₂ (· ≤ ·) values others) :
    Option.Rel (· ≤ ·) (meanHalfUp values) (meanHalfUp others) := by
  rcases eq_or_ne values [] with rfl | nonempty
  · cases below
    exact .none
  · have kept : others ≠ [] := by
      rintro rfl
      cases below
      exact nonempty rfl
    have means := divHalfUp_mono values.length (byteTotal_mono below)
    have first := meanHalfUp_eq nonempty
    have second := meanHalfUp_eq kept
    rw [first, second]
    refine .some (UInt8.le_iff_toNat_le.mpr ?_)
    rwa [toNat_mean first, toNat_mean second, ← below.length_eq]

/-- A list is below itself with one of its bytes raised. -/
theorem forall₂_set {index : Nat} (inside : index < values.length) {higher : UInt8}
    (le : values[index] ≤ higher) : List.Forall₂ (· ≤ ·) values (values.set index higher) := by
  induction values generalizing index with
  | nil => exact absurd inside (Nat.not_lt_zero _)
  | cons value rest ih =>
    cases index with
    | zero => exact .cons le (List.forall₂_refl rest)
    | succ index => exact .cons (UInt8.le_refl value) (ih (Nat.lt_of_succ_lt_succ inside) le)

/-- **A byte that is raised never lowers the mean.** -/
theorem mean_le_of_set {index : Nat} (inside : index < values.length) {higher : UInt8}
    (le : values[index] ≤ higher) (found : meanHalfUp values = some mean) :
    ∃ raised, meanHalfUp (values.set index higher) = some raised ∧ mean ≤ raised := by
  have means := meanHalfUp_mono (forall₂_set inside le)
  rw [found] at means
  generalize meanHalfUp (values.set index higher) = after at means ⊢
  cases means with
  | some le => exact ⟨_, rfl, le⟩

end Reputation
