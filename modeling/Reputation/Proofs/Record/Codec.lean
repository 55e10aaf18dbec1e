/-
**Records come back from their bytes.**

What a record is made of is written to a frame and read back, part by part. A slot fits into its
word if its fingerprint has no more than its bits and its score is not too high; the other parts
fit if their numbers are in range. What fits is read back as it was, and only what fits is ever
read.

* `Slot.unpack_eq_ok`, `TierMachine.ofFrame_eq_ok`: a word and the bytes of a tier are accepted as
  what is written so, and as nothing else.
* `Recency.ofFrame_eq_ok`: a place is taken exactly if its bit in the word of marks is set.
* `Record.decode_encode_iff`: the records that come back from their bytes are those that fit.
-/

import Reputation.Proofs.Fallible
import Reputation.Proofs.Raters.Slot
import Reputation.Proofs.Recency.Step
import Reputation.Record.Codec

namespace Reputation

namespace Slot

/-- **A word is accepted as that of one slot, whose fingerprint and score fit into it.** -/
theorem unpack_eq_ok {word sequence writtenAt : UInt64} {slot : Slot} :
    unpack word sequence writtenAt = .ok slot ↔
      slot.Storable ∧ frame (some slot) = ⟨word, sequence, writtenAt⟩ := by
  constructor
  · intro accepted
    rw [unpack_eq] at accepted
    split at accepted
    · cases accepted
    · rename_i low
      obtain rfl := Except.ok.inj accepted
      obtain ⟨storable, same⟩ := pack_ofWord sequence writtenAt (Nat.le_of_not_lt low)
      exact ⟨storable, congrArg (SlotFrame.mk · sequence writtenAt) same⟩
  · rintro ⟨storable, same⟩
    obtain ⟨rfl, rfl, rfl⟩ := SlotFrame.mk.inj same
    exact unpack_pack storable

/-! ### Marks -/

theorem testBit_marks {slots : List (Option Slot)} {place : Nat} (inside : place < slots.length) :
    (marks slots).testBit place = slots[place].isSome := by
  induction slots generalizing place with
  | nil => exact absurd inside (Nat.not_lt_zero _)
  | cons slot rest ih =>
    cases place with
    | zero => cases slot <;> simp [marks, Nat.testBit_zero, Nat.add_mod]
    | succ place =>
      have half : (slot.isSome.toNat + 2 * marks rest) / 2 = marks rest := by
        have mark := slot.isSome.toNat_lt
        omega
      rw [marks, Nat.testBit_succ, half]
      exact ih (Nat.lt_of_succ_lt_succ inside)

theorem marks_lt (slots : List (Option Slot)) : marks slots < 2 ^ slots.length := by
  induction slots with
  | nil => exact Nat.one_pos
  | cons slot rest ih =>
    have mark := slot.isSome.toNat_lt
    rw [marks, List.length_cons, Nat.pow_succ]
    omega

/-- What is held is what a frame shows: nothing if it is not marked, and a slot that fits if it
is. -/
structure ReadFrom (held : Option Slot) (marked : Bool) (shown : SlotFrame) : Prop where
  marked : held.isSome = marked
  slot : ∀ slot, held = some slot → slot.Storable ∧ frame held = shown

theorem ofFrame_eq_ok {marked : Bool} {shown : SlotFrame} {held : Option Slot} :
    ofFrame marked shown = .ok held ↔ ReadFrom held marked shown := by
  cases marked with
  | false =>
    constructor
    · rintro ⟨⟩
      exact ⟨rfl, nofun⟩
    · rintro ⟨free, -⟩
      rw [Option.not_isSome_iff_eq_none.mp (Bool.eq_false_iff.mp free)]
      rfl
  | true =>
    have unpacks (slot : Slot) : ofFrame true shown = .ok (some slot) ↔
        slot.Storable ∧ frame (some slot) = shown := by
      rw [← unpack_eq_ok, ofFrame, if_pos rfl]
      cases unpack shown.word shown.sequence shown.writtenAt <;> simp [Except.map]
    constructor
    · intro accepted
      cases held with
      | none =>
        rw [ofFrame, if_pos rfl] at accepted
        cases unpacked : unpack shown.word shown.sequence shown.writtenAt <;>
          simp [unpacked, Except.map] at accepted
      | some slot => exact ⟨rfl, fun _ holds => Option.some.inj holds ▸ (unpacks slot).mp accepted⟩
    · rintro ⟨taken, fits⟩
      obtain ⟨slot, rfl⟩ := Option.isSome_iff_exists.mp taken
      exact (unpacks slot).mpr (fits slot rfl)

theorem ofFrames_eq_ok {count marks : Nat} {frames : Vector SlotFrame count}
    {slots : Vector (Option Slot) count} :
    ofFrames marks frames = .ok slots ↔
      ∀ index : Fin count,
        ReadFrom (slots.get index) (marks.testBit index.val) (frames.get index) := by
  rw [ofFrames, finRange_mapM_eq_ok]
  exact forall_congr' fun index => ofFrame_eq_ok

end Slot

/-- Whether a frame marks a place as taken. -/
def RecencyFrame.isMarked (shown : RecencyFrame) : Location → Bool
  | .ring index => shown.ringMarks.toNat.testBit index.val
  | .bypass index => shown.bypassMarks.toNat.testBit index.val

/-- The frame of the slot at a place. -/
def RecencyFrame.slot (shown : RecencyFrame) : Location → SlotFrame
  | .ring index => shown.ring.get index
  | .bypass index => shown.bypass.get index

namespace Recency

variable {recency : Recency} {shown : RecencyFrame}

/-- What is remembered fits into its frame. -/
structure Storable (recency : Recency) : Prop where
  slots : ∀ location slot, recency.slot? location = some slot → slot.Storable
  windowCount : recency.windowCount.toNat ≤ bypassCapacity

theorem ofParts_eq_ok {ring : Vector (Option Slot) 24} {evictionCursor : UInt8}
    {windowStart : UInt64} {bypass : Vector (Option Slot) 10} {bypassCursor windowCount : UInt8} :
    ofParts ring evictionCursor windowStart bypass bypassCursor windowCount = .ok recency ↔
      (recency.ring = ring ∧ recency.bypass = bypass) ∧
        recency.evictionCursor.val = evictionCursor.toNat ∧ recency.windowStart = windowStart ∧
        recency.bypassCursor.val = bypassCursor.toNat ∧ recency.windowCount = windowCount ∧
        windowCount.toNat ≤ bypassCapacity := by
  unfold ofParts bypassCapacity
  constructor
  · intro made
    split at made
    · rename_i range
      cases made
      exact ⟨⟨rfl, rfl⟩, rfl, rfl, rfl, rfl, range.2.2⟩
    · cases made
  · rintro ⟨⟨rfl, rfl⟩, eviction, rfl, bypassing, rfl, narrow⟩
    have range : evictionCursor.toNat < 24 ∧ bypassCursor.toNat < 10 :=
      ⟨eviction ▸ recency.evictionCursor.isLt, bypassing ▸ recency.bypassCursor.isLt⟩
    rw [dif_pos ⟨range.1, range.2, narrow⟩]
    simp only [← eviction, ← bypassing]

/-- **What is remembered is read from a frame place by place.** -/
theorem ofFrame_eq_ok :
    ofFrame shown = .ok recency ↔
      (∀ location,
        Slot.ReadFrom (recency.slot? location) (shown.isMarked location) (shown.slot location)) ∧
        recency.evictionCursor.val = shown.evictionCursor.toNat ∧
        recency.windowStart = shown.windowStart ∧
        recency.bypassCursor.val = shown.bypassCursor.toNat ∧
        recency.windowCount = shown.windowCount ∧
        shown.windowCount.toNat ≤ bypassCapacity := by
  simp only [ofFrame, bind_eq_ok, ofParts_eq_ok, Slot.ofFrames_eq_ok]
  constructor
  · rintro ⟨_, ring, _, bypass, ⟨rfl, rfl⟩, rest⟩
    refine ⟨fun location => ?_, rest⟩
    cases location with
    | ring index => exact ring index
    | bypass index => exact bypass index
  · rintro ⟨places, rest⟩
    exact ⟨_, fun index => places (.ring index), _, fun index => places (.bypass index),
      ⟨rfl, rfl⟩, rest⟩

theorem isMarked_frame (recency : Recency) (location : Location) :
    recency.frame.isMarked location = (recency.slot? location).isSome := by
  cases location with
  | ring index =>
    have small : (UInt32.ofNat (Slot.marks recency.ring.toList)).toNat =
        Slot.marks recency.ring.toList :=
      UInt32.toNat_ofNat_of_lt' (Nat.lt_trans (Slot.marks_lt _) (by simp; decide))
    show (UInt32.ofNat (Slot.marks recency.ring.toList)).toNat.testBit index.val = _
    rw [small, Slot.testBit_marks (by simp), Vector.getElem_toList]
    rfl
  | bypass index =>
    have small : (UInt16.ofNat (Slot.marks recency.bypass.toList)).toNat =
        Slot.marks recency.bypass.toList :=
      UInt16.toNat_ofNat_of_lt' (Nat.lt_trans (Slot.marks_lt _) (by simp; decide))
    show (UInt16.ofNat (Slot.marks recency.bypass.toList)).toNat.testBit index.val = _
    rw [small, Slot.testBit_marks (by simp), Vector.getElem_toList]
    rfl

theorem slot_frame (recency : Recency) (location : Location) :
    recency.frame.slot location = Slot.frame (recency.slot? location) := by
  cases location with
  | ring index | bypass index => exact Vector.getElem_map _ index.isLt

/-- **What is remembered is read back from its frame, provided that it fits.** -/
theorem ofFrame_frame (storable : recency.Storable) : ofFrame recency.frame = .ok recency := by
  refine ofFrame_eq_ok.mpr ⟨fun location => ?_, ?_, rfl, ?_, rfl, storable.windowCount⟩
  · rw [isMarked_frame, slot_frame]
    exact ⟨rfl, fun slot holds => ⟨storable.slots location slot holds, rfl⟩⟩
  · exact (UInt8.toNat_ofNat_of_lt' (Nat.lt_trans recency.evictionCursor.isLt (by decide))).symm
  · exact (UInt8.toNat_ofNat_of_lt' (Nat.lt_trans recency.bypassCursor.isLt (by decide))).symm

/-- **What is read from a frame fits into one.** -/
theorem storable_of_ofFrame (accepted : ofFrame shown = .ok recency) : recency.Storable := by
  obtain ⟨places, -, -, -, count, narrow⟩ := ofFrame_eq_ok.mp accepted
  exact ⟨fun location slot holds => ((places location).slot slot holds).1, count ▸ narrow⟩

end Recency

/-! ### Statistics and tiers -/

theorem Statistics.ofFrame_frame (statistics : Statistics) :
    Statistics.ofFrame statistics.frame = statistics := by
  obtain ⟨_, _, _, _, seeded, _, _, _, _, _⟩ := statistics
  cases seeded <;> rfl

theorem Tier.toNat_byte (tier : Tier) : tier.byte.toNat = tier.rank :=
  UInt8.toNat_ofNat_of_lt' (Nat.lt_of_le_of_lt tier.rank_le (by decide))

theorem Tier.ofByte_eq_ok {byte : UInt8} {tier : Tier} :
    Tier.ofByte byte = .ok tier ↔ tier.byte = byte := by
  unfold Tier.ofByte
  constructor
  · intro accepted
    split at accepted
    · rename_i found
      cases accepted
      exact UInt8.toNat_inj.mp (tier.toNat_byte.trans (Tier.rank_of_ofRank? found))
    · cases accepted
  · rintro rfl
    rw [tier.toNat_byte, Tier.ofRank?_rank]

theorem Tier.byte_ne_noCandidate (tier : Tier) : tier.byte ≠ noCandidate := by
  cases tier <;> decide

/-- **A frame is accepted as that of exactly the machine that it shows.** -/
theorem TierMachine.ofFrame_eq_ok {shown : TierFrame} {machine : TierMachine} :
    TierMachine.ofFrame shown = .ok machine ↔ machine.frame = shown := by
  obtain ⟨confirmed, candidate, epoch⟩ := shown
  simp only [ofFrame, bind_eq_ok, Tier.ofByte_eq_ok]
  constructor
  · rintro ⟨tier, rfl, accepted⟩
    split at accepted
    · rename_i missing
      cases accepted
      rw [missing]
      rfl
    · obtain ⟨read, found, made⟩ := bind_eq_ok.mp accepted
      obtain ⟨next, named, rfl⟩ := map_eq_ok.mp found
      obtain rfl := Tier.ofByte_eq_ok.mp named
      cases made
      rfl
  · intro shows
    obtain ⟨rfl, rfl, rfl⟩ := TierFrame.mk.inj shows
    refine ⟨machine.confirmed, rfl, ?_⟩
    obtain ⟨confirmed, candidate, epoch⟩ := machine
    cases candidate with
    | none => rfl
    | some tier =>
      refine (if_neg tier.byte_ne_noCandidate).trans (bind_eq_ok.mpr ⟨some tier, ?_, rfl⟩)
      exact map_eq_ok.mpr ⟨tier, Tier.ofByte_eq_ok.mpr rfl, rfl⟩

theorem BooksFrame.inRange_iff {books : BooksFrame} :
    books.inRange = true ↔
      (∀ score ∈ [books.minScore, books.maxScore, books.firstScore, books.lastScore],
        score.toNat ≤ scoreMax) ∧
      books.quality.toNat ≤ qualityMax ∧ books.risk.toNat ≤ riskMax ∧
        books.confidence.toNat ≤ confidenceMax := by
  simp only [inRange, Bool.and_eq_true, List.all_eq_true, decide_eq_true_eq, and_assoc]

namespace Record

/-- A record that fits into its frame. -/
structure Storable (record : Record) : Prop where
  recency : record.recency.Storable
  books : record.books.inRange = true

theorem ofFrame_eq_ok {shown : Frame} {record : Record} :
    ofFrame shown = .ok record ↔
      shown.version = recordVersion ∧ ∃ recency tier,
        Recency.ofFrame shown.recency = .ok recency ∧ tier.frame = shown.tier ∧
          shown.books.inRange = true ∧
          ofParts ⟨shown.entity⟩ shown.salt shown.cardinality recency (.ofFrame shown.statistics)
            tier shown.heads shown.books = record := by
  unfold ofFrame
  constructor
  · intro accepted
    simp only [ne_eq, ite_not] at accepted
    split at accepted
    · rename_i current
      simp only [bind_eq_ok, TierMachine.ofFrame_eq_ok] at accepted
      obtain ⟨recency, readRecency, tier, readTier, accepted⟩ := accepted
      split at accepted
      · cases accepted
      · rename_i within
        cases accepted
        exact ⟨current, recency, tier, readRecency, readTier, by simpa using within, rfl⟩
    · cases accepted
  · rintro ⟨current, recency, tier, readRecency, readTier, within, rfl⟩
    rw [if_neg (Decidable.not_not.mpr current)]
    refine bind_eq_ok.mpr ⟨recency, readRecency, ?_⟩
    refine bind_eq_ok.mpr ⟨tier, TierMachine.ofFrame_eq_ok.mpr readTier, ?_⟩
    rw [if_neg (by simpa using within)]
    rfl

/-- **A record comes back from its bytes, provided that it fits into its frame.** -/
theorem decode_encode {record : Record} (storable : record.Storable) :
    decode (encode record) = .ok record := by
  have length : (encode record).length = recordLength := Frame.layout.length_write _
  rw [decode, if_neg (Decidable.not_not.mpr length), encode, Frame.layout.read_write]
  refine ofFrame_eq_ok.mpr ⟨rfl, record.recency, record.tier,
    Recency.ofFrame_frame storable.recency, rfl, storable.books, ?_⟩
  show ofParts _ _ _ _ (Statistics.ofFrame record.statistics.frame) _ _ _ = record
  rw [Statistics.ofFrame_frame]
  rfl

theorem decode_eq_ok {bytes : List UInt8} {record : Record} :
    decode bytes = .ok record ↔
      bytes.length = recordLength ∧ ofFrame (Frame.layout.read bytes) = .ok record := by
  unfold decode
  split <;> simp_all

/-- **What is read fits into a frame.** -/
theorem storable_of_decode {bytes : List UInt8} {record : Record}
    (accepted : decode bytes = .ok record) : record.Storable := by
  obtain ⟨-, accepted⟩ := decode_eq_ok.mp accepted
  obtain ⟨-, recency, tier, readRecency, -, within, rfl⟩ := ofFrame_eq_ok.mp accepted
  exact ⟨Recency.storable_of_ofFrame readRecency, within⟩

/-- **The records that come back from their bytes are exactly those that fit into their frames.** -/
theorem decode_encode_iff {record : Record} :
    decode (encode record) = .ok record ↔ record.Storable :=
  ⟨storable_of_decode, decode_encode⟩

end Record

end Reputation
