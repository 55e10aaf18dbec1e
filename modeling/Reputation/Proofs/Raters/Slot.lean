/-
**A slot and its word.**

Fingerprint, score and mark of a slot share the 64 bits of a word: 56, 7 and 1 of them, from the
highest to the lowest. Each bit belongs to one of the three, so a word is that of one slot, and a
slot whose fingerprint and score fit into their bits has its word to itself. The seven bits of the
score have room for numbers above the highest score; words that hold one are refused.

* `Storable`: a slot whose fingerprint and score fit into its word.
* `pack_eq_bits`: the word by its bits.
* `toNat_pack`, `toNat_packedScore`: the word and its parts as numbers.
* `ofWord`, `pack_ofWord`, `ofWord_pack`: the slot of a word, and back.
* `unpack_eq`, `unpack_accepts`: a word is refused exactly if its score is too high.
* **`packing_is_bijective`**: the slots that fit are those of the words that are not refused.
-/

import Reputation.Raters.Slot

namespace Reputation

namespace Slot

/-- A slot whose fingerprint and score fit into its word. -/
structure Storable (slot : Slot) : Prop where
  fingerprint : slot.fingerprint.value.toNat < 2 ^ fingerprintBits
  score : slot.score.toNat ≤ scoreMax

/-! ### The word of a slot -/

/-- **The word by its bits**: the fingerprint stands above the lowest byte, and of that byte the
score has all bits but the lowest one, which is the mark. -/
theorem pack_eq_bits (slot : Slot) :
    slot.pack =
      slot.fingerprint.value <<< 8 ||| (slot.score &&& 0x7f).toUInt64 <<< 1 |||
        slot.revoked.toUInt64 := by
  have rater : slot.fingerprint.value.toNat <<< 8 % 2 ^ 64 =
      2 ^ 8 * (slot.fingerprint.value.toNat % 2 ^ 56) := by
    rw [Nat.shiftLeft_eq]
    omega
  have seven : (slot.score &&& 0x7f).toNat = slot.score.toNat % 128 :=
    (UInt8.toNat_and _ _).trans (Nat.and_two_pow_sub_one_eq_mod slot.score.toNat 7)
  have score : (slot.score.toNat % 128) <<< 1 % 2 ^ 64 = 2 ^ 1 * (slot.score.toNat % 128) := by
    rw [Nat.shiftLeft_eq]
    omega
  have mark : slot.revoked.toUInt64.toNat = slot.revoked.toNat := by cases slot.revoked <;> rfl
  have bit : slot.revoked.toNat < 2 ^ 1 := slot.revoked.toNat_lt
  have byte : 2 ^ 1 * (slot.score.toNat % 128) + slot.revoked.toNat < 2 ^ 8 := by omega
  have lower := Nat.two_pow_add_eq_or_of_lt bit (slot.score.toNat % 128)
  have whole := Nat.two_pow_add_eq_or_of_lt byte (slot.fingerprint.value.toNat % 2 ^ 56)
  apply UInt64.toNat_inj.mp
  rw [UInt64.toNat_or, UInt64.toNat_or, UInt64.toNat_shiftLeft, UInt64.toNat_shiftLeft,
    UInt8.toNat_toUInt64, seven, mark]
  show slot.pack.toNat = slot.fingerprint.value.toNat <<< 8 % 2 ^ 64 |||
    (slot.score.toNat % 128) <<< 1 % 2 ^ 64 ||| slot.revoked.toNat
  -- No two of the three parts have a bit in common, so putting them together adds them up.
  rw [rater, score, Nat.or_assoc, ← lower, ← whole, pack, UInt64.toNat_ofNat']
  omega

theorem toNat_pack {slot : Slot} (storable : slot.Storable) :
    slot.pack.toNat =
      slot.fingerprint.value.toNat * 256 + slot.score.toNat * 2 + slot.revoked.toNat := by
  have narrow := storable.fingerprint
  have low := storable.score
  have mark : slot.revoked.toNat < 2 := slot.revoked.toNat_lt
  simp only [fingerprintBits, scoreMax] at narrow low
  rw [pack, Nat.mod_eq_of_lt (show slot.score.toNat < 128 by omega)]
  refine UInt64.toNat_ofNat_of_lt' ?_
  show _ < 2 ^ 64
  omega

/-- The fingerprint stands above the lowest byte of the word. -/
theorem toNat_pack_div {slot : Slot} (storable : slot.Storable) :
    slot.pack.toNat / 256 = slot.fingerprint.value.toNat := by
  have low := storable.score
  have mark := slot.revoked.toNat_lt
  simp only [scoreMax] at low
  rw [toNat_pack storable]
  omega

/-! ### The slot of a word -/

theorem toNat_packedScore (word : UInt64) : (packedScore word).toNat = word.toNat / 2 % 128 :=
  UInt8.toNat_ofNat_of_lt' (Nat.lt_trans (Nat.mod_lt _ (by decide)) (by decide))

/-- The score of a word has the seven bits above the lowest. -/
theorem toNat_sevenBits (word : UInt64) :
    (word >>> 1 &&& 0x7f).toNat = (packedScore word).toNat := by
  rw [toNat_packedScore, UInt64.toNat_and, UInt64.toNat_shiftRight]
  exact Nat.and_two_pow_sub_one_eq_mod (word.toNat >>> 1) 7

theorem toNat_fingerprint_ofWord (word : UInt64) :
    (Fingerprint.ofWord (UInt64.ofNat (word.toNat / 256))).value.toNat = word.toNat / 256 := by
  have size := word.toNat_lt
  rw [Fingerprint.toNat_ofWord,
    UInt64.toNat_ofNat_of_lt' (Nat.lt_of_le_of_lt (Nat.div_le_self _ _) size)]
  exact Nat.mod_eq_of_lt (by simp only [fingerprintBits]; omega)

/-- The slot that a word stands for, if its score is not too high. -/
def ofWord (word sequence writtenAt : UInt64) : Slot where
  fingerprint := .ofWord (UInt64.ofNat (word.toNat / 256))
  score := packedScore word
  revoked := word.toNat % 2 == 1
  sequence
  writtenAt

theorem pack_ofWord {word : UInt64} (sequence writtenAt : UInt64)
    (low : (packedScore word).toNat ≤ scoreMax) :
    (ofWord word sequence writtenAt).Storable ∧ (ofWord word sequence writtenAt).pack = word := by
  have size := word.toNat_lt
  have storable : (ofWord word sequence writtenAt).Storable :=
    ⟨Fingerprint.value_ofWord_lt _, low⟩
  refine ⟨storable, UInt64.toNat_inj.mp ?_⟩
  rw [toNat_pack storable]
  simp only [ofWord, toNat_fingerprint_ofWord, toNat_packedScore]
  have mark : (word.toNat % 2 == 1).toNat = word.toNat % 2 := by
    rcases Nat.mod_two_eq_zero_or_one word.toNat with even | odd <;> simp [*]
  rw [mark]
  omega

theorem ofWord_pack {slot : Slot} (storable : slot.Storable) :
    ofWord slot.pack slot.sequence slot.writtenAt = slot := by
  obtain ⟨⟨value⟩, score, revoked, sequence, writtenAt⟩ := slot
  have packed := toNat_pack storable
  have rater := toNat_pack_div storable
  have low := storable.score
  simp only [scoreMax] at packed rater low
  simp only [ofWord, mk.injEq, and_true]
  generalize pack ⟨⟨value⟩, score, revoked, sequence, writtenAt⟩ = word at packed rater
  have mark := revoked.toNat_lt
  refine ⟨congrArg Fingerprint.mk (UInt64.toNat_inj.mp ?_), UInt8.toNat_inj.mp ?_, ?_⟩
  · exact (toNat_fingerprint_ofWord word).trans rater
  · rw [toNat_packedScore]
    omega
  · cases revoked <;> simp only [Bool.toNat_true, Bool.toNat_false] at packed <;> simp <;> omega

/-! ### What is refused -/

section

variable (word sequence writtenAt : UInt64)

/-- A word is refused if its score is too high, and else taken for the slot that it stands for. -/
theorem unpack_eq :
    unpack word sequence writtenAt =
      if scoreMax < (packedScore word).toNat then .error (.codec (.slotScore (packedScore word)))
      else .ok (ofWord word sequence writtenAt) := rfl

theorem unpack_accepts :
    (∃ slot, unpack word sequence writtenAt = .ok slot) ↔ word.toNat / 2 % 128 ≤ scoreMax := by
  rw [← toNat_packedScore, unpack_eq]
  split <;> simp_all

theorem unpack_refuses :
    (∃ fault, unpack word sequence writtenAt = .error (.codec fault)) ↔
      scoreMax < (packedScore word).toNat := by
  rw [unpack_eq]
  split
  · rename_i high
    exact ⟨fun _ => high, fun _ => ⟨_, rfl⟩⟩
  · rename_i low
    exact ⟨nofun, fun high => absurd high low⟩

end

/-- A slot that fits is read back from its word. -/
theorem unpack_pack {slot : Slot} (storable : slot.Storable) :
    unpack slot.pack slot.sequence slot.writtenAt = .ok slot := by
  have score : packedScore slot.pack = slot.score := congrArg Slot.score (ofWord_pack storable)
  rw [unpack_eq, ofWord_pack storable, score]
  exact if_neg (Nat.not_lt.mpr storable.score)

/-- **Packing is a bijection onto the words that are not refused.** A word has the bits of the
fingerprint, of the score and of the mark, in this order, and no others. For every word, sequence
index and time: the word is refused exactly if the seven bits of its score are above a hundred, and
if not it is that of a slot that fits, which has the index and the time. Every slot that fits is read
back from its word. -/
theorem packing_is_bijective :
    (∀ slot : Slot, slot.pack =
      slot.fingerprint.value <<< 8 ||| (slot.score &&& 0x7f).toUInt64 <<< 1 |||
        slot.revoked.toUInt64) ∧
      (∀ word sequence writtenAt : UInt64,
        ((∃ fault, unpack word sequence writtenAt = .error (.codec fault)) ↔
          (100 : UInt64) < word >>> 1 &&& 0x7f) ∧
        (word >>> 1 &&& 0x7f ≤ 100 →
          ∃ slot, unpack word sequence writtenAt = .ok slot ∧ slot.pack = word ∧
            slot.fingerprint.value.toNat < 2 ^ 56 ∧ slot.score ≤ 100 ∧
            slot.sequence = sequence ∧ slot.writtenAt = writtenAt)) ∧
      ∀ slot : Slot, slot.fingerprint.value.toNat < 2 ^ 56 → slot.score ≤ 100 →
        unpack slot.pack slot.sequence slot.writtenAt = .ok slot := by
  refine ⟨pack_eq_bits, fun word sequence writtenAt => ?_, fun slot narrow low =>
    unpack_pack ⟨narrow, UInt8.le_iff_toNat_le.mp low⟩⟩
  rw [unpack_refuses, UInt64.lt_iff_toNat_lt, UInt64.le_iff_toNat_le, toNat_sevenBits]
  refine ⟨Iff.rfl, fun low => ⟨ofWord word sequence writtenAt, ?_, ?_⟩⟩
  · rw [unpack_eq]
    exact if_neg (Nat.not_lt.mpr low)
  · obtain ⟨storable, same⟩ := pack_ofWord sequence writtenAt low
    exact ⟨same, storable.fingerprint, UInt8.le_iff_toNat_le.mpr storable.score, rfl, rfl⟩

/-- A slot with all bits of a fingerprint, the highest score and the mark. -/
def brimful : Slot := ⟨⟨0xffffffffffffff⟩, 100, true, 7, 9⟩

/-- The word of such a slot is that of one slot, and such a slot is read back from its word. With
all bits of the score, the word is refused. -/
theorem brimful_is_packed :
    ((0xffffffffffffffc9 : UInt64) >>> 1 &&& 0x7f ≤ 100 ∧
        ∃ slot, unpack 0xffffffffffffffc9 7 9 = .ok slot ∧ slot.pack = 0xffffffffffffffc9) ∧
      (brimful.fingerprint.value.toNat < 2 ^ 56 ∧ brimful.score ≤ 100 ∧
        unpack brimful.pack 7 9 = .ok brimful) ∧
      ∃ fault, unpack 0xffffffffffffffff 7 9 = .error (.codec fault) := by
  obtain ⟨-, words, slots⟩ := packing_is_bijective
  obtain ⟨-, reads⟩ := words 0xffffffffffffffc9 7 9
  obtain ⟨slot, read, same, -⟩ := reads (by decide)
  obtain ⟨refused, -⟩ := words 0xffffffffffffffff 7 9
  exact ⟨⟨by decide, slot, read, same⟩,
    ⟨by decide, by decide, slots brimful (by decide) (by decide)⟩, refused.mpr (by decide)⟩

end Slot

end Reputation
