/-
**Which bytes are a record.**

Every number of a record stands at a fixed position, and a few of them are looked into when bytes
are read: the version, the scores of the slots that are marked as taken, the cursors, the tiers and
the scores that are kept. `Readable` says this of the bytes themselves, without reading them.

* `Frame.read_eq_at`: the positions of all numbers.
* `Record.decode_accepts`: exactly the readable bytes are a record.
* `Record.decode_failsAsRecord`: all others are refused for the record that they do not make up.
-/

import Mathlib.Tactic.MkIffOfInductiveProp
import Reputation.Proofs.Bytes.Position
import Reputation.Proofs.Record.Codec

namespace Reputation

variable {bytes : List UInt8}

/-! ### Positions -/

/-- The frame in some bytes, each number from its position on. -/
def Frame.at (bytes : List UInt8) : Frame where
  version := Layout.byte.readAt bytes 0
  entity := Layout.word64.readAt bytes 1
  salt := Layout.word64.readAt bytes 9
  cardinality := cardinalityLayout.readAt bytes 17
  recency :=
    { ringMarks := Layout.word32.readAt bytes 145
      ring := (slotLayout.vector 24).readAt bytes 149
      evictionCursor := Layout.byte.readAt bytes 725
      windowStart := Layout.word64.readAt bytes 726
      bypassMarks := Layout.word16.readAt bytes 734
      bypass := (slotLayout.vector 10).readAt bytes 736
      bypassCursor := Layout.byte.readAt bytes 976
      windowCount := Layout.byte.readAt bytes 977 }
  statistics :=
    { fast := Layout.word32.readAt bytes 978
      slow := Layout.word32.readAt bytes 982
      volatility := Layout.word32.readAt bytes 986
      arrival := Layout.word32.readAt bytes 990
      arrivalSeeded := Layout.byte.readAt bytes 994
      burst := Layout.byte.readAt bytes 995
      negative := Layout.byte.readAt bytes 996
      loyalty := Layout.byte.readAt bytes 997
      peak := Layout.word32.readAt bytes 998
      drawdown := Layout.word32.readAt bytes 1002 }
  tier :=
    { confirmed := Layout.byte.readAt bytes 1006
      candidate := Layout.byte.readAt bytes 1007
      candidateEpoch := Layout.word64.readAt bytes 1008 }
  heads :=
    { feedback := Layout.bytes32.readAt bytes 1016
      revocation := Layout.bytes32.readAt bytes 1048
      response := Layout.bytes32.readAt bytes 1080 }
  books :=
    { quality := Layout.word32.readAt bytes 1112
      risk := Layout.byte.readAt bytes 1116
      confidence := Layout.byte.readAt bytes 1117
      diversity := Layout.byte.readAt bytes 1118
      feedbackCount := Layout.word32.readAt bytes 1119
      revokedCount := Layout.word32.readAt bytes 1123
      responseCount := Layout.word32.readAt bytes 1127
      minScore := Layout.byte.readAt bytes 1131
      maxScore := Layout.byte.readAt bytes 1132
      firstScore := Layout.byte.readAt bytes 1133
      lastScore := Layout.byte.readAt bytes 1134
      epochCount := Layout.word32.readAt bytes 1135
      currentEpoch := Layout.word64.readAt bytes 1139
      firstSeen := Layout.word64.readAt bytes 1147
      lastSeen := Layout.word64.readAt bytes 1155 }

/-- **The positions of all numbers of a record.** -/
theorem Frame.read_eq_at (length : bytes.length = recordLength) :
    layout.read bytes = Frame.at bytes := by
  rw [Layout.read_eq_readAt length]
  simp only [layout, recencyLayout, statisticsLayout, tierLayout, headsLayout, booksLayout,
    Layout.readAt_via, Layout.readAt_beside]
  rfl

/-- Where the slot of a place starts. -/
def Location.position : Location → Nat
  | .ring index => 149 + 24 * index.val
  | .bypass index => 736 + 24 * index.val

/-- Whether a place is marked as taken. -/
def Location.isMarked (bytes : List UInt8) : Location → Bool
  | .ring index => (numberAt bytes 145 4).testBit index.val
  | .bypass index => (numberAt bytes 734 2).testBit index.val

theorem isMarked_at (location : Location) :
    (Frame.at bytes).recency.isMarked location = location.isMarked bytes := by
  cases location with
  | ring index =>
    exact congrArg (Nat.testBit · index.val) Layout.toNat_readAt_word32
  | bypass index =>
    exact congrArg (Nat.testBit · index.val) Layout.toNat_readAt_word16

/-- The word of a slot comes first in its 24 bytes. -/
theorem toNat_word_readAt {count position : Nat} (index : Fin count) :
    (((Frame.slotLayout.vector count).readAt bytes position).get index).word.toNat =
      numberAt bytes (position + 24 * index.val) 8 := by
  have start : index.val * Frame.slotLayout.width = 24 * index.val := Nat.mul_comm _ _
  have first (position : Nat) : (Frame.slotLayout.readAt bytes position).word =
      Layout.word64.readAt bytes position := by
    simp only [Frame.slotLayout, Layout.readAt_via, Layout.readAt_beside]
  rw [Layout.get_readAt_vector, start, first]
  exact Layout.toNat_readAt_word64

theorem toNat_word_at (location : Location) :
    ((Frame.at bytes).recency.slot location).word.toNat = numberAt bytes location.position 8 := by
  cases location with
  | ring index | bypass index => exact toNat_word_readAt index

/-- Bytes in which every number that is looked into is in range. -/
@[mk_iff]
structure Readable (bytes : List UInt8) : Prop where
  length : bytes.length = 1163
  version : numberAt bytes 0 1 = 1
  /-- The score of a slot that is taken stands above the lowest bit of its word. -/
  slots : ∀ location : Location, location.isMarked bytes = true →
    numberAt bytes location.position 8 / 2 % 128 ≤ 100
  evictionCursor : numberAt bytes 725 1 < 24
  bypassCursor : numberAt bytes 976 1 < 10
  windowCount : numberAt bytes 977 1 ≤ 10
  confirmed : numberAt bytes 1006 1 ≤ 4
  /-- The candidate is a tier or missing. -/
  candidate : numberAt bytes 1007 1 ≤ 4 ∨ numberAt bytes 1007 1 = 255
  /-- The lowest, the highest, the first and the last score. -/
  scores : ∀ position ∈ [1131, 1132, 1133, 1134], numberAt bytes position 1 ≤ 100
  quality : numberAt bytes 1112 4 ≤ 10000
  risk : numberAt bytes 1116 1 ≤ 100
  confidence : numberAt bytes 1117 1 ≤ 100

/-! ### What is accepted -/

namespace Slot

theorem ofFrame_accepts {marked : Bool} {shown : SlotFrame} :
    (∃ held, ofFrame marked shown = .ok held) ↔
      (marked = true → shown.word.toNat / 2 % 128 ≤ scoreMax) := by
  cases marked with
  | false => simp [ofFrame]
  | true =>
    rw [← unpack_accepts shown.word shown.sequence shown.writtenAt, ofFrame, if_pos rfl]
    cases unpack shown.word shown.sequence shown.writtenAt <;> simp [Except.map]

theorem readFrom_accepts {marked : Bool} {shown : SlotFrame} :
    (∃ held, ReadFrom held marked shown) ↔
      (marked = true → shown.word.toNat / 2 % 128 ≤ scoreMax) := by
  simp only [← ofFrame_eq_ok, ofFrame_accepts]

end Slot

/-- What is remembered at each place can be chosen freely. -/
theorem Recency.exists_slot? (held : Location → Option Slot) (evictionCursor : Fin 24)
    (windowStart : UInt64) (bypassCursor : Fin 10) (windowCount : UInt8) :
    ∃ recency : Recency, (∀ location, recency.slot? location = held location) ∧
      recency.evictionCursor = evictionCursor ∧ recency.windowStart = windowStart ∧
      recency.bypassCursor = bypassCursor ∧ recency.windowCount = windowCount := by
  refine ⟨⟨.ofFn fun index => held (.ring index), evictionCursor, windowStart,
    .ofFn fun index => held (.bypass index), bypassCursor, windowCount⟩, ?_, rfl, rfl, rfl, rfl⟩
  intro location
  cases location with
  | ring index | bypass index => exact Vector.getElem_ofFn index.isLt

theorem Recency.ofFrame_accepts {shown : RecencyFrame} :
    (∃ recency, ofFrame shown = .ok recency) ↔
      (∀ location, shown.isMarked location = true →
        (shown.slot location).word.toNat / 2 % 128 ≤ scoreMax) ∧
        shown.evictionCursor.toNat < 24 ∧ shown.bypassCursor.toNat < 10 ∧
        shown.windowCount.toNat ≤ bypassCapacity := by
  simp only [ofFrame_eq_ok, ← Slot.readFrom_accepts]
  constructor
  · rintro ⟨recency, places, eviction, -, bypassing, -, narrow⟩
    exact ⟨fun location => ⟨_, places location⟩, eviction ▸ recency.evictionCursor.isLt,
      bypassing ▸ recency.bypassCursor.isLt, narrow⟩
  · rintro ⟨places, eviction, bypassing, narrow⟩
    obtain ⟨held, reads⟩ := Classical.skolem.mp places
    obtain ⟨recency, holds, evictionCursor, windowStart, bypassCursor, windowCount⟩ :=
      exists_slot? held ⟨_, eviction⟩ shown.windowStart ⟨_, bypassing⟩ shown.windowCount
    exact ⟨recency, fun location => holds location ▸ reads location,
      congrArg Fin.val evictionCursor, windowStart, congrArg Fin.val bypassCursor, windowCount,
      narrow⟩

theorem Tier.exists_rank : ∀ {rank : Nat}, rank ≤ 4 → ∃ tier : Tier, tier.rank = rank
  | 0, _ => ⟨.unrated, rfl⟩
  | 1, _ => ⟨.bronze, rfl⟩
  | 2, _ => ⟨.silver, rfl⟩
  | 3, _ => ⟨.gold, rfl⟩
  | 4, _ => ⟨.platinum, rfl⟩

theorem Tier.byte_accepts {byte : UInt8} : (∃ tier : Tier, tier.byte = byte) ↔ byte.toNat ≤ 4 := by
  constructor
  · rintro ⟨tier, rfl⟩
    cases tier <;> decide
  · intro low
    obtain ⟨tier, same⟩ := Tier.exists_rank low
    exact ⟨tier, by rw [Tier.byte, same, UInt8.ofNat_toNat]⟩

theorem TierMachine.frame_accepts {shown : TierFrame} :
    (∃ machine : TierMachine, machine.frame = shown) ↔
      shown.confirmed.toNat ≤ 4 ∧ (shown.candidate.toNat ≤ 4 ∨ shown.candidate.toNat = 255) := by
  rw [← Tier.byte_accepts, ← Tier.byte_accepts]
  constructor
  · rintro ⟨⟨confirmed, candidate, epoch⟩, rfl⟩
    refine ⟨⟨confirmed, rfl⟩, ?_⟩
    cases candidate with
    | none => exact .inr rfl
    | some tier => exact .inl ⟨tier, rfl⟩
  · rintro ⟨⟨confirmed, first⟩, named⟩
    obtain ⟨_, candidate, epoch⟩ := shown
    obtain rfl := first
    rcases named with ⟨tier, rfl⟩ | missing
    · exact ⟨⟨confirmed, some tier, epoch⟩, rfl⟩
    · obtain rfl : candidate = noCandidate := UInt8.toNat_inj.mp missing
      exact ⟨⟨confirmed, none, epoch⟩, rfl⟩

namespace Record

theorem ofFrame_accepts {shown : Frame} :
    (∃ record, ofFrame shown = .ok record) ↔
      shown.version = recordVersion ∧ (∃ recency, Recency.ofFrame shown.recency = .ok recency) ∧
        (∃ machine : TierMachine, machine.frame = shown.tier) ∧ shown.books.inRange = true := by
  simp only [ofFrame_eq_ok]
  constructor
  · rintro ⟨record, current, recency, machine, readRecency, readTier, within, -⟩
    exact ⟨current, ⟨recency, readRecency⟩, ⟨machine, readTier⟩, within⟩
  · rintro ⟨current, ⟨recency, readRecency⟩, ⟨machine, readTier⟩, within⟩
    exact ⟨_, current, recency, machine, readRecency, readTier, within, rfl⟩

theorem books_at_inRange :
    (Frame.at bytes).books.inRange = true ↔
      (∀ position ∈ [1131, 1132, 1133, 1134], numberAt bytes position 1 ≤ 100) ∧
        numberAt bytes 1112 4 ≤ 10000 ∧ numberAt bytes 1116 1 ≤ 100 ∧
        numberAt bytes 1117 1 ≤ 100 := by
  simp only [BooksFrame.inRange_iff, Frame.at, List.forall_mem_cons, List.not_mem_nil,
    false_implies, implies_true, Layout.toNat_readAt_byte, Layout.toNat_readAt_word32]
  rfl

theorem version_at : (Frame.at bytes).version = recordVersion ↔ numberAt bytes 0 1 = 1 := by
  rw [← UInt8.toNat_inj]
  show (Layout.byte.readAt bytes 0).toNat = 1 ↔ _
  rw [Layout.toNat_readAt_byte]

/-- **Exactly the readable bytes are a record.** -/
theorem decode_accepts : (∃ record, decode bytes = .ok record) ↔ Readable bytes := by
  simp only [decode_eq_ok, exists_and_left, readable_iff]
  refine and_congr_right fun length => ?_
  rw [Frame.read_eq_at length, ofFrame_accepts, version_at, Recency.ofFrame_accepts,
    TierMachine.frame_accepts, books_at_inRange]
  simp only [isMarked_at, toNat_word_at, and_assoc]
  simp only [Frame.at, Layout.toNat_readAt_byte, bypassCapacity, scoreMax]

end Record

/-! ### What is refused -/

/-- An attempt that can fail only because something does not make up a record. -/
def FailsAsRecord {α : Type} (attempt : Except Error α) : Prop :=
  ∀ error, attempt = .error error → ∃ fault, error = .codec fault

namespace FailsAsRecord

variable {α β : Type}

theorem ok {value : α} : FailsAsRecord (.ok value) := nofun

theorem codec {fault : RecordFault} : FailsAsRecord (.error (.codec fault) : Except Error α) := by
  rintro _ ⟨⟩
  exact ⟨fault, rfl⟩

theorem map {attempt : Except Error α} {translate : α → β} (fails : FailsAsRecord attempt) :
    FailsAsRecord (attempt.map translate) := by
  intro error failed
  cases attempt with
  | error found =>
    cases failed
    exact fails error rfl
  | ok value => cases failed

theorem bind {first : Except Error α} {rest : α → Except Error β} (start : FailsAsRecord first)
    (further : ∀ value, FailsAsRecord (rest value)) : FailsAsRecord (first >>= rest) := by
  intro error failed
  rcases bind_eq_error.mp failed with failed | ⟨value, -, failed⟩
  · exact start error failed
  · exact further value error failed

end FailsAsRecord

theorem Slot.ofFrame_failsAsRecord (marked : Bool) (shown : SlotFrame) :
    FailsAsRecord (ofFrame marked shown) := by
  unfold ofFrame unpack
  split
  · refine FailsAsRecord.map ?_
    split
    · exact .codec
    · exact .ok
  · exact .ok

theorem Slot.ofFrames_failsAsRecord {count : Nat} (marks : Nat) (frames : Vector SlotFrame count) :
    FailsAsRecord (ofFrames marks frames) := by
  intro error failed
  obtain ⟨index, failed⟩ := finRange_mapM_eq_error failed
  exact ofFrame_failsAsRecord _ _ error failed

theorem Recency.ofFrame_failsAsRecord (shown : RecencyFrame) :
    FailsAsRecord (ofFrame shown) := by
  refine (Slot.ofFrames_failsAsRecord _ _).bind fun ring =>
    (Slot.ofFrames_failsAsRecord _ _).bind fun bypass => ?_
  unfold ofParts
  split
  · exact .ok
  · exact .codec

theorem Tier.ofByte_failsAsRecord (byte : UInt8) : FailsAsRecord (ofByte byte) := by
  unfold ofByte
  split
  · exact .ok
  · exact .codec

theorem TierMachine.ofFrame_failsAsRecord (shown : TierFrame) : FailsAsRecord (ofFrame shown) := by
  refine (Tier.ofByte_failsAsRecord _).bind fun confirmed => ?_
  split
  · exact .ok
  · exact (Tier.ofByte_failsAsRecord _).map.bind fun candidate => .ok

/-- **Bytes are refused only because they do not make up a record.** -/
theorem Record.decode_failsAsRecord (bytes : List UInt8) : FailsAsRecord (decode bytes) := by
  unfold decode
  split
  · exact .codec
  · unfold ofFrame
    dsimp only
    split
    · exact .codec
    · refine (Recency.ofFrame_failsAsRecord _).bind fun recency =>
        (TierMachine.ofFrame_failsAsRecord _).bind fun machine => ?_
      split
      · exact .codec
      · exact .ok

/-- **What is not readable is refused for the record that it does not make up.** -/
theorem Record.decode_refuses (unreadable : ¬ Readable bytes) :
    ∃ fault, decode bytes = .error (.codec fault) := by
  cases read : decode bytes with
  | ok record => exact absurd (decode_accepts.mp ⟨record, read⟩) unreadable
  | error error =>
    obtain ⟨fault, rfl⟩ := decode_failsAsRecord bytes error read
    exact ⟨fault, rfl⟩

end Reputation
