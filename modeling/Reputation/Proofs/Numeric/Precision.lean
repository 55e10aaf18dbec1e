/-
**A logarithm is precise to its last bits.**

A turn squares the mantissa and halves the square if that reaches two. It rounds down, by less than
one part in `2 ^ 32` of what is left. A mantissa and what it becomes are compared by their powers:
in `bits` turns, `2 ^ bits` of these errors are multiplied. For sixteen fractional bits all of them
are less than a factor of two, which is one more unit of the logarithm.

* `mantissas`: the mantissas of all turns; `foldl_logBit`: the bits they give are the logarithm's.
* `Normal`: a mantissa is in `[1, 2)`; `Normal.next`: and stays there.
* `pow_logFraction_le`, `lt_pow_logFraction`: what the bits of a mantissa say about its powers.
* `succ_pow_le_two_mul`: how many errors stay below a factor of two.
* `pow_log2Fixed_le`, `lt_pow_log2Fixed`: what the logarithm says about the powers of a number.
* **`log2_is_precise`**: the logarithm is never too high, less than two units too low, and monotone.
-/

import Mathlib.Algebra.Order.Field.Rat
import Mathlib.Algebra.Order.Ring.Pow
import Mathlib.Tactic.FieldSimp
import Mathlib.Tactic.Linarith
import Mathlib.Tactic.Ring
import Reputation.Proofs.Words.Numeric

namespace Reputation

/-! ### The mantissas of all turns -/

/-- The mantissas that are squared for the next `bits` fractional bits. -/
def mantissas : (bits mantissa : Nat) → List Nat
  | 0, _ => []
  | bits + 1, mantissa => mantissa :: mantissas bits (nextMantissa mantissa)

/-- **The fractional bits are those that the mantissas give, the first one leading.** -/
theorem foldl_logBit (bits mantissa high : Nat) :
    (mantissas bits mantissa).foldl (fun fraction next => 2 * fraction + logBit next) high =
      high * 2 ^ bits + logFraction bits mantissa := by
  induction bits generalizing mantissa high with
  | zero => exact (Nat.mul_one high).symm
  | succ bits ih =>
    rw [mantissas, List.foldl_cons, ih, logFraction_succ, Nat.pow_succ]
    ring

/-- A mantissa is in `[1, 2)`. -/
structure Normal (mantissa : Nat) : Prop where
  one_le : 2 ^ 32 ≤ mantissa
  lt_two : mantissa < 2 ^ 33

theorem normal_mantissaOf {value : Nat} (some : value ≠ 0) : Normal (mantissaOf value) := by
  refine ⟨?_, mantissaOf_lt value⟩
  rw [mantissaOf, Nat.le_div_iff_mul_le (Nat.two_pow_pos _), Nat.mul_comm]
  exact Nat.mul_le_mul_right _ (Nat.log2_self_le some)

namespace Normal

variable {mantissa : Nat}

/-- **A turn keeps the mantissa in `[1, 2)`.** -/
theorem next (normal : Normal mantissa) : Normal (nextMantissa mantissa) := by
  have low := Nat.mul_le_mul normal.one_le normal.one_le
  have high := Nat.mul_le_mul (Nat.le_sub_one_of_lt normal.lt_two)
    (Nat.le_sub_one_of_lt normal.lt_two)
  have reached : 2 ^ 32 ≤ squared mantissa := by
    unfold squared
    omega
  have bounded : squared mantissa < 2 ^ 34 := by
    unfold squared
    omega
  unfold nextMantissa
  constructor <;> split <;> omega

theorem mantissas (normal : Normal mantissa) (bits : Nat) :
    ∀ next ∈ mantissas bits mantissa, Normal next := by
  induction bits generalizing mantissa with
  | zero => exact fun next among => nomatch among
  | succ bits ih => exact List.forall_mem_cons.mpr ⟨normal, ih normal.next⟩

end Normal

/-! ### What a turn loses -/

/-- A turn rounds down. -/
theorem next_le_square (mantissa : Nat) :
    2 ^ 32 * (2 ^ logBit mantissa * nextMantissa mantissa) ≤ mantissa * mantissa := by
  have whole : 2 ^ 32 * squared mantissa ≤ mantissa * mantissa := Nat.mul_div_le _ _
  unfold logBit nextMantissa
  split <;> omega

/-- **A turn loses less than one part in `2 ^ 32`.** -/
theorem Normal.square_le_next {mantissa : Nat} (normal : Normal mantissa) :
    mantissa * mantissa ≤ (2 ^ 32 + 1) * (2 ^ logBit mantissa * nextMantissa mantissa) := by
  have rest : mantissa * mantissa < 2 ^ 32 * (squared mantissa + 1) :=
    Nat.lt_mul_div_succ _ (by decide)
  have reached := normal.next.one_le
  unfold nextMantissa at reached
  unfold logBit nextMantissa
  split at reached
  · rename_i two
    rw [if_pos two, if_pos two]
    omega
  · rename_i two
    rw [if_neg two, if_neg two]
    omega

/-! ### Powers of a mantissa -/

theorem mul_two_pow_mul_pow (scale bit next count : Nat) :
    (scale * (2 ^ bit * next)) ^ count = scale ^ count * 2 ^ (bit * count) * next ^ count := by
  rw [Nat.mul_pow, Nat.mul_pow, ← Nat.pow_mul, Nat.mul_assoc]

theorem pow_two_pow_succ (base bits : Nat) :
    base ^ 2 ^ (bits + 1) = (base * base) ^ 2 ^ bits := by
  rw [Nat.pow_succ, Nat.mul_comm, Nat.pow_mul, Nat.pow_two]

namespace Normal

variable {mantissa : Nat}

/-- **The bits never promise too much.** -/
theorem pow_logFraction_le (normal : Normal mantissa) (bits : Nat) :
    2 ^ logFraction bits mantissa * (2 ^ 32) ^ 2 ^ bits ≤ mantissa ^ 2 ^ bits := by
  induction bits generalizing mantissa with
  | zero =>
    rw [logFraction, Nat.pow_zero, Nat.one_mul, Nat.pow_one, Nat.pow_one]
    exact normal.one_le
  | succ bits ih =>
    have further := ih normal.next
    have turn := next_le_square mantissa
    rw [logFraction_succ, pow_two_pow_succ, pow_two_pow_succ]
    generalize 2 ^ 32 = one at further turn ⊢
    calc 2 ^ (logBit mantissa * 2 ^ bits + logFraction bits (nextMantissa mantissa)) *
          (one * one) ^ 2 ^ bits
        = one ^ 2 ^ bits * 2 ^ (logBit mantissa * 2 ^ bits) *
          (2 ^ logFraction bits (nextMantissa mantissa) * one ^ 2 ^ bits) := by
          rw [Nat.pow_add, Nat.mul_pow]
          ring
      _ ≤ one ^ 2 ^ bits * 2 ^ (logBit mantissa * 2 ^ bits) *
          nextMantissa mantissa ^ 2 ^ bits := Nat.mul_le_mul_left _ further
      _ = (one * (2 ^ logBit mantissa * nextMantissa mantissa)) ^ 2 ^ bits :=
          (mul_two_pow_mul_pow _ _ _ _).symm
      _ ≤ (mantissa * mantissa) ^ 2 ^ bits := Nat.pow_le_pow_left turn _

/-- **What the bits leave out is less than one more of them, but for the errors of the turns.** -/
theorem lt_pow_logFraction (normal : Normal mantissa) (bits : Nat) :
    mantissa ^ 2 ^ bits < 2 ^ (logFraction bits mantissa + 1) * (2 ^ 32 + 1) ^ 2 ^ bits := by
  induction bits generalizing mantissa with
  | zero =>
    have two := normal.lt_two
    rw [logFraction, Nat.pow_zero, Nat.pow_one, Nat.pow_one]
    omega
  | succ bits ih =>
    have further := ih normal.next
    have turn := normal.square_le_next
    have positive : 0 < 2 ^ 32 + 1 := Nat.succ_pos _
    rw [logFraction_succ, pow_two_pow_succ, pow_two_pow_succ]
    generalize 2 ^ 32 + 1 = above at further turn positive ⊢
    calc (mantissa * mantissa) ^ 2 ^ bits
        ≤ (above * (2 ^ logBit mantissa * nextMantissa mantissa)) ^ 2 ^ bits :=
          Nat.pow_le_pow_left turn _
      _ = above ^ 2 ^ bits * 2 ^ (logBit mantissa * 2 ^ bits) *
          nextMantissa mantissa ^ 2 ^ bits := mul_two_pow_mul_pow _ _ _ _
      _ < above ^ 2 ^ bits * 2 ^ (logBit mantissa * 2 ^ bits) *
          (2 ^ (logFraction bits (nextMantissa mantissa) + 1) * above ^ 2 ^ bits) :=
          Nat.mul_lt_mul_of_pos_left further
            (Nat.mul_pos (Nat.pow_pos positive) (Nat.two_pow_pos _))
      _ = 2 ^ (logBit mantissa * 2 ^ bits + logFraction bits (nextMantissa mantissa) + 1) *
          (above * above) ^ 2 ^ bits := by
          rw [Nat.add_assoc, Nat.pow_add, Nat.mul_pow]
          ring

end Normal

/-- **Few errors of one part in `one` stay below a factor of two**: Bernoulli's inequality. -/
theorem succ_pow_le_two_mul {one count : Nat} (few : 2 * count ≤ one + 1) :
    (one + 1) ^ count ≤ 2 * one ^ count := by
  have above : (0 : ℚ) < one + 1 := by exact_mod_cast Nat.succ_pos one
  have kept : (one : ℚ) / (one + 1) = 1 + -(1 / (one + 1)) := by
    field_simp
    ring
  have part : (1 : ℚ) / (one + 1) ≤ 1 := by
    rw [div_le_one₀ above]
    exact_mod_cast Nat.le_add_left 1 one
  have lost : (count : ℚ) * (1 / (one + 1)) ≤ 1 / 2 := by
    rw [mul_one_div, div_le_div_iff₀ above two_pos, one_mul, mul_comm]
    exact_mod_cast few
  have half : 1 / 2 ≤ ((one : ℚ) / (one + 1)) ^ count :=
    calc (1 : ℚ) / 2 ≤ 1 + count * -(1 / (one + 1)) := by linarith
      _ ≤ (1 + -(1 / (one + 1))) ^ count := one_add_mul_le_pow (by linarith) count
      _ = ((one : ℚ) / (one + 1)) ^ count := by rw [kept]
  rw [div_pow, div_le_div_iff₀ two_pos (pow_pos above count), one_mul, mul_comm] at half
  exact_mod_cast half

/-! ### Powers of a number -/

section

variable {value : Nat}

/-- The mantissa of a number is rounded down. -/
theorem mantissaOf_mul_le (value : Nat) : mantissaOf value * 2 ^ value.log2 ≤ value * 2 ^ 32 :=
  Nat.div_mul_le_self _ _

/-- The mantissa of a number loses less than one part in `2 ^ 32`. -/
theorem mul_le_mantissaOf (some : value ≠ 0) :
    value * 2 ^ 32 * 2 ^ 32 ≤ mantissaOf value * (2 ^ 32 + 1) * 2 ^ value.log2 := by
  have rest : value * 2 ^ 32 < 2 ^ value.log2 * (mantissaOf value + 1) :=
    Nat.lt_mul_div_succ _ (Nat.two_pow_pos _)
  have one := (normal_mantissaOf some).one_le
  calc value * 2 ^ 32 * 2 ^ 32
      ≤ 2 ^ value.log2 * (mantissaOf value + 1) * 2 ^ 32 :=
        Nat.mul_le_mul_right _ (Nat.le_of_lt rest)
    _ = (mantissaOf value * 2 ^ 32 + 2 ^ 32) * 2 ^ value.log2 := by ring
    _ ≤ (mantissaOf value * 2 ^ 32 + mantissaOf value) * 2 ^ value.log2 :=
        Nat.mul_le_mul_right _ (Nat.add_le_add_left one _)
    _ = mantissaOf value * (2 ^ 32 + 1) * 2 ^ value.log2 := by ring

/-- **The logarithm is never too high.** -/
theorem pow_log2Fixed_le (some : value ≠ 0) :
    2 ^ log2Fixed value ≤ value ^ 2 ^ logFractionBits := by
  have bits := (normal_mantissaOf some).pow_logFraction_le logFractionBits
  have whole := mantissaOf_mul_le value
  have positive : 0 < 2 ^ 32 := Nat.two_pow_pos 32
  rw [log2Fixed_eq some]
  -- The powers are compared as they stand: written out, they have a million digits.
  generalize mantissaOf value = mantissa at bits whole ⊢
  generalize logFractionBits = fine at bits ⊢
  generalize logFraction fine mantissa = fraction at bits ⊢
  generalize 2 ^ 32 = one at positive bits whole
  refine Nat.le_of_mul_le_mul_right ?_ (Nat.pow_pos (n := 2 ^ fine) positive)
  calc 2 ^ (value.log2 * 2 ^ fine + fraction) * one ^ 2 ^ fine
      = 2 ^ fraction * one ^ 2 ^ fine * (2 ^ value.log2) ^ 2 ^ fine := by
        rw [Nat.pow_add, ← Nat.pow_mul]
        ring
    _ ≤ mantissa ^ 2 ^ fine * (2 ^ value.log2) ^ 2 ^ fine := Nat.mul_le_mul_right _ bits
    _ = (mantissa * 2 ^ value.log2) ^ 2 ^ fine := (Nat.mul_pow _ _ _).symm
    _ ≤ (value * one) ^ 2 ^ fine := Nat.pow_le_pow_left whole _
    _ = value ^ 2 ^ fine * one ^ 2 ^ fine := Nat.mul_pow _ _ _

/-- **The logarithm is less than two units too low**: one for the bits that are left out, and one
for the errors of the mantissa and of its turns. -/
theorem lt_pow_log2Fixed (some : value ≠ 0) :
    value ^ 2 ^ logFractionBits < 2 ^ (log2Fixed value + 2) := by
  have bits := (normal_mantissaOf some).lt_pow_logFraction logFractionBits
  have whole := mul_le_mantissaOf some
  have few : 2 * (2 * 2 ^ logFractionBits) ≤ 2 ^ 32 + 1 := by decide
  rw [log2Fixed_eq some]
  generalize mantissaOf value = mantissa at bits whole ⊢
  generalize logFractionBits = fine at bits few ⊢
  generalize logFraction fine mantissa = fraction at bits ⊢
  generalize 2 ^ 32 = one at bits whole few
  refine Nat.lt_of_mul_lt_mul_right (a := (one * one) ^ 2 ^ fine) ?_
  calc value ^ 2 ^ fine * (one * one) ^ 2 ^ fine
      = (value * one * one) ^ 2 ^ fine := by rw [← Nat.mul_pow, Nat.mul_assoc]
    _ ≤ (mantissa * (one + 1) * 2 ^ value.log2) ^ 2 ^ fine := Nat.pow_le_pow_left whole _
    _ = mantissa ^ 2 ^ fine * ((one + 1) ^ 2 ^ fine * (2 ^ value.log2) ^ 2 ^ fine) := by
        rw [Nat.mul_pow, Nat.mul_pow, Nat.mul_assoc]
    _ < 2 ^ (fraction + 1) * (one + 1) ^ 2 ^ fine *
          ((one + 1) ^ 2 ^ fine * (2 ^ value.log2) ^ 2 ^ fine) :=
        Nat.mul_lt_mul_of_pos_right bits
          (Nat.mul_pos (Nat.pow_pos (Nat.succ_pos one)) (Nat.pow_pos (Nat.two_pow_pos _)))
    _ = 2 ^ (value.log2 * 2 ^ fine + fraction + 1) * (one + 1) ^ (2 * 2 ^ fine) := by
        rw [Nat.add_assoc, Nat.pow_add 2 (value.log2 * 2 ^ fine), Nat.pow_mul 2 value.log2]
        ring
    _ ≤ 2 ^ (value.log2 * 2 ^ fine + fraction + 1) * (2 * one ^ (2 * 2 ^ fine)) :=
        Nat.mul_le_mul_left _ (succ_pow_le_two_mul few)
    _ = 2 ^ (value.log2 * 2 ^ fine + fraction + 2) * (one * one) ^ 2 ^ fine := by ring

end

/-! ### Powers of two -/

/-- A mantissa of one has no fractional bits: squaring it changes nothing. -/
theorem logFraction_one (bits : Nat) : logFraction bits (2 ^ 32) = 0 := by
  induction bits with
  | zero => rfl
  | succ bits ih => exact ih

/-- **The logarithm of a power of two is exact.** -/
theorem log2Fixed_two_pow (whole : Nat) :
    log2Fixed (2 ^ whole) = whole * 2 ^ logFractionBits := by
  have one : mantissaOf (2 ^ whole) = 2 ^ 32 := by
    rw [mantissaOf, Nat.log2_two_pow, Nat.mul_div_cancel_left _ (Nat.two_pow_pos whole)]
  rw [log2Fixed_eq (Nat.ne_of_gt (Nat.two_pow_pos whole)), Nat.log2_two_pow, one, logFraction_one,
    Nat.add_zero]

/-! ### The logarithm of a word -/

/-- **The logarithm begins with the position of the leading bit, and each mantissa gives the next
bit of it.** -/
theorem log2Fixed_eq_foldl {value : Nat} (some : value ≠ 0) :
    log2Fixed value = (mantissas logFractionBits (mantissaOf value)).foldl
      (fun bits mantissa => 2 * bits + logBit mantissa) value.log2 := by
  rw [foldl_logBit, log2Fixed_eq some]

/-- **The logarithm is precise and monotone.** For all words: the logarithm and its hundredths have
no fault, and the hundredths are at most those of sixty-four. For every word but zero: the
logarithm, in units of one part in `2 ^ 16`, is never too high and less than two units too low, and
the mantissas that give its bits are in `[1, 2)` when they are squared. For powers of two it is
exact. Both the logarithm and its hundredths are monotone. -/
theorem log2_is_precise :
    (∀ value : UInt64,
      log2FixedChecked value.toNat = .ok (log2Fixed value.toNat) ∧
        log2CentiChecked value.toNat = .ok (log2Centi value.toNat) ∧
        log2Centi value.toNat ≤ 6400) ∧
      (∀ value : UInt64, value ≠ 0 →
        (2 ^ log2Fixed value.toNat ≤ value.toNat ^ 65536 ∧
          value.toNat ^ 65536 < 2 ^ (log2Fixed value.toNat + 2)) ∧
        log2Fixed value.toNat = (mantissas 16 (mantissaOf value.toNat)).foldl
          (fun bits mantissa => 2 * bits + logBit mantissa) value.toNat.log2 ∧
        ∀ mantissa ∈ mantissas 16 (mantissaOf value.toNat),
          2 ^ 32 ≤ mantissa ∧ mantissa < 2 ^ 33) ∧
      (∀ whole, log2Fixed (2 ^ whole) = 65536 * whole) ∧
      (∀ value higher : UInt64, value ≤ higher →
        log2Fixed value.toNat ≤ log2Fixed higher.toNat ∧
          log2Centi value.toNat ≤ log2Centi higher.toNat) := by
  have units : 65536 = 2 ^ logFractionBits := rfl
  rw [units]
  refine ⟨fun value => ?_, fun value off => ?_, fun whole => ?_, fun value higher le => ?_⟩
  · exact ⟨log2FixedChecked_eq value.toNat_lt, log2CentiChecked_eq value.toNat_lt,
      log2Centi_le value.toNat_lt⟩
  · have some : value.toNat ≠ 0 := fun none => off (UInt64.toNat_inj.mp none)
    have normal := normal_mantissaOf some
    exact ⟨⟨pow_log2Fixed_le some, lt_pow_log2Fixed some⟩, log2Fixed_eq_foldl some,
      fun mantissa among => ⟨(normal.mantissas 16 mantissa among).one_le,
        (normal.mantissas 16 mantissa among).lt_two⟩⟩
  · rw [log2Fixed_two_pow, Nat.mul_comm]
  · rw [UInt64.le_iff_toNat_le] at le
    exact ⟨log2Fixed_mono le, log2Centi_mono le⟩

/-- The logarithm of three, `1.58496`, is `103872` units, and that of four is no lower. -/
theorem log2_three_is_precise :
    (3 : UInt64) ≠ 0 ∧ log2Fixed 3 = 103872 ∧ 2 ^ log2Fixed 3 ≤ 3 ^ 65536 ∧
      3 ^ 65536 < 2 ^ (log2Fixed 3 + 2) ∧ log2Fixed 3 ≤ log2Fixed 4 := by
  obtain ⟨-, precise, -, monotone⟩ := log2_is_precise
  obtain ⟨⟨low, high⟩, -⟩ := precise 3 (by decide)
  have three : (3 : UInt64).toNat = 3 := rfl
  rw [three] at low high
  exact ⟨by decide, by decide, low, high, (monotone 3 4 (by decide)).1⟩

end Reputation
