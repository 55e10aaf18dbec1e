/-
**Registers join.**

Registers are ordered by what each of them has reached. The higher of each pair is the least upper
bound of two of them, and the registers before any rater are the lowest. The registers of a list of
raters are the lowest ones that have reached every rank that the raters propose, so to join the
registers of two lists is to observe both lists, and in whatever order raters are observed and
registers are joined, the registers are those of the set of all the raters.

* `SemilatticeSup Cardinality`: joining gives the least upper bound.
* `le_rankOf_iff`: the rank that a fingerprint proposes, by the zeros that lead its mixed word.
* `toNat_register_tally`: what a register holds is the highest rank that was proposed to it.
* `merge_tally`: the registers of two lists, joined, are those of the two lists together.
* `Gathering.registers_eq_tally`: raters observed and registers joined in any order.
* **`sketch_of_set`**: registers are a sketch of the set of raters.
-/

import Mathlib.Order.Lattice
import Mathlib.Order.Fin.Basic
import Reputation.Proofs.Raters.Cardinality

namespace Reputation

namespace Cardinality

variable {cardinality first second : Cardinality} {fingerprint : Fingerprint}

/-! ### The order of registers -/

instance : LE Cardinality :=
  ⟨fun first second => ∀ register : Fin 256,
    first.registers.get register ≤ second.registers.get register⟩

theorem get_merge (first second : Cardinality) (register : Fin 256) :
    (first.merge second).registers.get register =
      max (first.registers.get register) (second.registers.get register) := by
  rw [max_def_lt]
  exact Vector.getElem_zipWith register.isLt

instance : PartialOrder Cardinality where
  le_refl _ _ := le_rfl
  le_trans _ _ _ below above register := (below register).trans (above register)
  le_antisymm _ _ below above :=
    eq_of_le_iff fun register _ =>
      ⟨fun reached => reached.trans (below register), fun reached => reached.trans (above register)⟩

/-- Joining gives the least upper bound. -/
instance : SemilatticeSup Cardinality where
  sup := merge
  le_sup_left first second register := by
    rw [get_merge]
    exact le_max_left _ _
  le_sup_right first second register := by
    rw [get_merge]
    exact le_max_right _ _
  sup_le first second bound below above register := by
    rw [get_merge]
    exact max_le (below register) (above register)

theorem le_merge_left (first second : Cardinality) : first ≤ first.merge second := le_sup_left

theorem le_merge_right (first second : Cardinality) : second ≤ first.merge second := le_sup_right

theorem le_observe (cardinality : Cardinality) (fingerprint : Fingerprint) :
    cardinality ≤ cardinality.observe fingerprint := fun register =>
  (le_observe_iff cardinality fingerprint register _).mpr (.inl le_rfl)

/-- **A fingerprint raises its register exactly if it changes the registers.** -/
theorem isRaisedBy_iff (cardinality : Cardinality) (fingerprint : Fingerprint) :
    cardinality.isRaisedBy fingerprint = true ↔
      (cardinality.observe fingerprint).registers ≠ cardinality.registers := by
  constructor
  · intro raises same
    have higher : cardinality.registers[registerOf fingerprint] < rankOf fingerprint :=
      of_decide_eq_true raises
    have reached : rankOf fingerprint ≤
        (cardinality.observe fingerprint).registers[registerOf fingerprint] :=
      (le_observe_iff _ _ _ _).mpr (.inr ⟨rfl, le_rfl⟩)
    rw [same] at reached
    exact absurd higher (not_lt_of_ge reached)
  · intro changed
    by_contra raisesNot
    exact changed (by rw [observe, if_neg raisesNot])

/-! ### Ranks -/

theorem toNat_rankOf (fingerprint : Fingerprint) :
    (rankOf fingerprint).val =
      min (leadingZeros ((scramble fingerprint.value).toNat / 256) + 1) rankMax :=
  Nat.mod_eq_of_lt (Nat.lt_succ_of_le (Nat.min_le_right _ _))

/-- A number of 56 bits is led by some zeros if it is below the power that the other bits leave. -/
theorem le_leadingZeros_iff {bits zeros : Nat} (few : zeros ≤ 56) (below : bits < 2 ^ 56) :
    zeros ≤ leadingZeros bits ↔ bits < 2 ^ (56 - zeros) := by
  unfold leadingZeros
  split
  · rename_i none
    subst none
    exact iff_of_true few (Nat.two_pow_pos _)
  · rename_i some
    have high : bits.log2 < 56 := (Nat.log2_lt some).mpr below
    rw [← Nat.log2_lt some]
    omega

/-- **The rank that a fingerprint proposes is at least the given one if as many zeros, less one,
lead its mixed word.** -/
theorem le_rankOf_iff {rank : Nat} (positive : 0 < rank) (low : rank ≤ rankMax)
    (fingerprint : Fingerprint) :
    rank ≤ (rankOf fingerprint).val ↔
      (scramble fingerprint.value).toNat < 2 ^ (65 - rank) := by
  have word := (scramble fingerprint.value).toNat_lt
  have short : rank ≤ 15 := low
  obtain ⟨zeros, rfl⟩ : ∃ zeros, rank = zeros + 1 := ⟨rank - 1, by omega⟩
  have zeros_iff := le_leadingZeros_iff (show zeros ≤ 56 by omega)
    (show (scramble fingerprint.value).toNat / 256 < 2 ^ 56 by omega)
  have bits : 65 - (zeros + 1) = 56 - zeros + 8 := by omega
  rw [toNat_rankOf, Nat.le_min, and_iff_left low, Nat.add_le_add_iff_right, zeros_iff, bits,
    Nat.pow_add, Nat.div_lt_iff_lt_mul (by decide)]

/-! ### The registers of a list of raters -/

/-- The highest of the ranks that some fingerprints propose to a register, zero if there is none. -/
def highestRank (register : Fin 256) (fingerprints : List Fingerprint) : Nat :=
  ((fingerprints.filter fun fingerprint => registerOf fingerprint = register).map
    fun fingerprint => (rankOf fingerprint).val).max?.getD 0

/-- **A register holds the highest rank that was proposed to it.** -/
theorem toNat_register_tally (fingerprints : List Fingerprint) (register : Fin 256) :
    ((tally fingerprints).registers.get register).val = highestRank register fingerprints := by
  have reached (rank : Fin 16) : rank ≤ (tally fingerprints).registers.get register ↔ rank = 0 ∨
      ∃ fingerprint ∈ fingerprints,
        registerOf fingerprint = register ∧ rank ≤ rankOf fingerprint :=
    le_tally_iff fingerprints register rank
  generalize (tally fingerprints).registers.get register = held at reached
  unfold highestRank
  have proposed {rank : Nat} : rank ∈ (fingerprints.filter fun fingerprint =>
      registerOf fingerprint = register).map (fun fingerprint => (rankOf fingerprint).val) ↔
      ∃ fingerprint ∈ fingerprints, registerOf fingerprint = register ∧
        (rankOf fingerprint).val = rank := by
    simp only [List.mem_map, List.mem_filter, decide_eq_true_eq, and_assoc]
  cases highest : ((fingerprints.filter fun fingerprint =>
      registerOf fingerprint = register).map fun fingerprint => (rankOf fingerprint).val).max? with
  | none =>
    rw [List.max?_eq_none_iff] at highest
    rcases (reached held).mp le_rfl with zero | ⟨fingerprint, among, here, -⟩
    · rw [zero]
      rfl
    · have member := proposed.mpr ⟨fingerprint, among, here, rfl⟩
      rw [highest] at member
      cases member
  | some rank =>
    obtain ⟨member, bound⟩ := List.max?_eq_some_iff.mp highest
    obtain ⟨fingerprint, among, here, proposes⟩ := proposed.mp member
    have above : rankOf fingerprint ≤ held :=
      (reached _).mpr (.inr ⟨fingerprint, among, here, le_rfl⟩)
    rw [Option.getD_some]
    refine le_antisymm ?_ (proposes ▸ Fin.le_def.mp above)
    rcases (reached held).mp le_rfl with zero | ⟨other, also, there, below⟩
    · rw [zero]
      exact Nat.zero_le _
    · exact le_trans (Fin.le_def.mp below) (bound _ (proposed.mpr ⟨other, also, there, rfl⟩))

theorem highestRank_le (register : Fin 256) (fingerprints : List Fingerprint) :
    highestRank register fingerprints ≤ rankMax := by
  rw [← toNat_register_tally]
  exact Nat.le_of_lt_succ (Fin.isLt _)

/-- **The registers of two lists, joined, are those of the two lists together.** -/
theorem merge_tally (first second : List Fingerprint) :
    (tally first).merge (tally second) = tally (first ++ second) := by
  refine eq_of_le_iff fun register rank => ?_
  have both := le_tally_iff (first ++ second) register rank
  simp only [List.mem_append, or_and_right, exists_or] at both
  rw [get_merge, le_sup_iff]
  refine Iff.trans (or_congr (le_tally_iff first register rank)
    (le_tally_iff second register rank)) (Iff.trans ?_ both.symm)
  rw [or_or_or_comm, or_self]

/-! ### Observing and joining in any order -/

/-- A way in which registers come about. -/
inductive Gathering where
  /-- No rater was observed. -/
  | start
  | observed (gathering : Gathering) (fingerprint : Fingerprint)
  | joined (first second : Gathering)

/-- The registers that come about. -/
def Gathering.registers : Gathering → Cardinality
  | start => empty
  | observed gathering fingerprint => gathering.registers.observe fingerprint
  | joined first second => first.registers.merge second.registers

/-- Everyone who was observed. -/
def Gathering.raters : Gathering → List Fingerprint
  | start => []
  | observed gathering fingerprint => gathering.raters ++ [fingerprint]
  | joined first second => first.raters ++ second.raters

/-- **In whatever order raters are observed and registers are joined, the registers are those of
all the raters.** -/
theorem Gathering.registers_eq_tally (gathering : Gathering) :
    gathering.registers = tally gathering.raters := by
  induction gathering with
  | start => rfl
  | observed gathering fingerprint ih => rw [registers, raters, tally_concat, ih]
  | joined first second one two => rw [registers, raters, ← merge_tally, one, two]

/-- **Registers are a sketch of the set of raters.** The registers of a list of raters are the same
for all lists with the same members. A register holds the highest rank that was proposed to it, a
rank of four bits that counts the zeros at the head of the mixed word. A fingerprint is told to
raise its register exactly if it changes the registers. Joining is commutative, associative and
idempotent and gives the registers of the two lists together, and whoever is in one of them raises
nothing afterwards. All this holds in whatever order raters were observed and registers joined. -/
theorem sketch_of_set (first second : List Fingerprint) :
    (∀ others, (∀ fingerprint, fingerprint ∈ others ↔ fingerprint ∈ first) →
        tally others = tally first) ∧
      (∀ register : Fin 256,
        ((tally first).registers.get register).val = highestRank register first ∧
          highestRank register first ≤ rankMax) ∧
      (∀ fingerprint, (registerOf fingerprint).val = (scramble fingerprint.value).toNat % 256 ∧
        ∀ rank, 0 < rank → rank ≤ rankMax → (rank ≤ (rankOf fingerprint).val ↔
          (scramble fingerprint.value).toNat < 2 ^ (65 - rank))) ∧
      (∀ cardinality fingerprint, isRaisedBy cardinality fingerprint = true ↔
        (cardinality.observe fingerprint).registers ≠ cardinality.registers) ∧
      (tally first).merge (tally second) = tally (first ++ second) ∧
      (∀ one two three : Cardinality, one.merge two = two.merge one ∧
        (one.merge two).merge three = one.merge (two.merge three) ∧ one.merge one = one) ∧
      (∀ fingerprint, fingerprint ∈ first ∨ fingerprint ∈ second →
        ((tally first).merge (tally second)).isRaisedBy fingerprint = false) ∧
      ∀ gathering : Gathering, gathering.registers = tally gathering.raters := by
  refine ⟨fun others => tally_eq_of_mem_iff, fun register => ?_, fun fingerprint => ?_,
    isRaisedBy_iff, merge_tally first second, fun one two three => ?_, fun fingerprint among => ?_,
    Gathering.registers_eq_tally⟩
  · exact ⟨toNat_register_tally first register, highestRank_le register first⟩
  · exact ⟨rfl, fun rank positive low => le_rankOf_iff positive low fingerprint⟩
  · exact ⟨sup_comm one two, sup_assoc one two three, sup_idem one⟩
  · rw [merge_tally]
    exact not_isRaisedBy_tally (List.mem_append.mpr among)

end Cardinality

end Reputation
