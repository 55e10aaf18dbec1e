/-
**Records as bytes.**

A record is encoded as the bytes of its frame. A slot that is not taken is left zero, and a missing
candidate is marked by a byte that is no tier. Reading checks the length, the version, the scores
of the slots that are taken, the cursors, the tiers and the scores that are kept, in this order,
and reports what it finds first.
-/

import Reputation.Record.Basic
import Reputation.Record.Frame

namespace Reputation

/-- The version of the layout. -/
def recordVersion : UInt8 := 1

/-- The byte that stands for no candidate. -/
def noCandidate : UInt8 := 0xff

namespace Slot

/-- The frame of a slot, zero if it is not taken. -/
def frame : Option Slot → SlotFrame
  | some slot => ⟨slot.pack, slot.sequence, slot.writtenAt⟩
  | none => ⟨0, 0, 0⟩

/-- The word of marks of some slots: the bit of a slot is set if it is taken. -/
def marks : List (Option Slot) → Nat
  | [] => 0
  | slot :: rest => slot.isSome.toNat + 2 * marks rest

/-- The slot of a frame, none if it is not marked. -/
def ofFrame (marked : Bool) (frame : SlotFrame) : Except Error (Option Slot) :=
  if marked then (unpack frame.word frame.sequence frame.writtenAt).map some else .ok none

/-- The slots of some frames. -/
def ofFrames {count : Nat} (marks : Nat) (frames : Vector SlotFrame count) :
    Except Error (Vector (Option Slot) count) :=
  (Vector.finRange count).mapM fun place => ofFrame (marks.testBit place.val) (frames.get place)

end Slot

/-- The frame of what is remembered of recent raters. -/
def Recency.frame (recency : Recency) : RecencyFrame where
  ringMarks := UInt32.ofNat (Slot.marks recency.ring.toList)
  ring := recency.ring.map Slot.frame
  evictionCursor := UInt8.ofNat recency.evictionCursor.val
  windowStart := recency.windowStart
  bypassMarks := UInt16.ofNat (Slot.marks recency.bypass.toList)
  bypass := recency.bypass.map Slot.frame
  bypassCursor := UInt8.ofNat recency.bypassCursor.val
  windowCount := recency.windowCount

/-- What is remembered according to a frame. -/
def Recency.ofFrame (frame : RecencyFrame) : Except Error Recency := do
  let ring ← Slot.ofFrames frame.ringMarks.toNat frame.ring
  let bypass ← Slot.ofFrames frame.bypassMarks.toNat frame.bypass
  ofParts ring frame.evictionCursor frame.windowStart bypass frame.bypassCursor frame.windowCount

/-- The frame of the statistics. -/
def Statistics.frame (statistics : Statistics) : StatisticsFrame where
  fast := statistics.fast
  slow := statistics.slow
  volatility := statistics.volatility
  arrival := statistics.arrival
  arrivalSeeded := UInt8.ofNat statistics.arrivalSeeded.toNat
  burst := statistics.burst
  negative := statistics.negative
  loyalty := statistics.loyalty
  peak := statistics.peak
  drawdown := statistics.drawdown

/-- The statistics of a frame. -/
def Statistics.ofFrame (frame : StatisticsFrame) : Statistics where
  fast := frame.fast
  slow := frame.slow
  volatility := frame.volatility
  arrival := frame.arrival
  arrivalSeeded := frame.arrivalSeeded != 0
  burst := frame.burst
  negative := frame.negative
  loyalty := frame.loyalty
  peak := frame.peak
  drawdown := frame.drawdown

/-- The byte of a tier. -/
def Tier.byte (tier : Tier) : UInt8 := UInt8.ofNat tier.rank

/-- The tier of a byte. -/
def Tier.ofByte (byte : UInt8) : Except Error Tier :=
  match Tier.ofRank? byte.toNat with
  | some tier => .ok tier
  | none => .error (.codec (.tier byte))

/-- The frame of a tier. -/
def TierMachine.frame (machine : TierMachine) : TierFrame where
  confirmed := machine.confirmed.byte
  candidate := machine.candidate.elim noCandidate Tier.byte
  candidateEpoch := machine.candidateEpoch

/-- The tier of a frame. -/
def TierMachine.ofFrame (frame : TierFrame) : Except Error TierMachine := do
  let confirmed ← Tier.ofByte frame.confirmed
  let candidate ←
    if frame.candidate = noCandidate then pure none else some <$> Tier.ofByte frame.candidate
  return ⟨confirmed, candidate, frame.candidateEpoch⟩

/-- Whether the scores of a frame are in range. -/
def BooksFrame.inRange (books : BooksFrame) : Bool :=
  [books.minScore, books.maxScore, books.firstScore, books.lastScore].all (·.toNat ≤ scoreMax) &&
    books.quality.toNat ≤ qualityMax && books.risk.toNat ≤ riskMax &&
    books.confidence.toNat ≤ confidenceMax

namespace Record

/-- The scores and counters of a record. -/
def books (record : Record) : BooksFrame where
  quality := record.quality
  risk := record.risk
  confidence := record.confidence
  diversity := record.diversity
  feedbackCount := record.feedbackCount
  revokedCount := record.revokedCount
  responseCount := record.responseCount
  minScore := record.minScore
  maxScore := record.maxScore
  firstScore := record.firstScore
  lastScore := record.lastScore
  epochCount := record.epochCount
  currentEpoch := record.currentEpoch
  firstSeen := record.firstSeen
  lastSeen := record.lastSeen

/-- The frame of a record. -/
def frame (record : Record) : Frame where
  version := recordVersion
  entity := record.entity.value
  salt := record.salt
  cardinality := record.cardinality
  recency := record.recency.frame
  statistics := record.statistics.frame
  tier := record.tier.frame
  heads := record.heads
  books := record.books

/-- The record with the given parts. -/
def ofParts (entity : EntityId) (salt : UInt64) (cardinality : Cardinality) (recency : Recency)
    (statistics : Statistics) (tier : TierMachine) (heads : Heads) (books : BooksFrame) :
    Record where
  entity
  salt
  cardinality
  recency
  statistics
  tier
  heads
  quality := books.quality
  risk := books.risk
  confidence := books.confidence
  diversity := books.diversity
  feedbackCount := books.feedbackCount
  revokedCount := books.revokedCount
  responseCount := books.responseCount
  minScore := books.minScore
  maxScore := books.maxScore
  firstScore := books.firstScore
  lastScore := books.lastScore
  epochCount := books.epochCount
  currentEpoch := books.currentEpoch
  firstSeen := books.firstSeen
  lastSeen := books.lastSeen

/-- The record of a frame. -/
def ofFrame (frame : Frame) : Except Error Record := do
  if frame.version ≠ recordVersion then throw (.codec (.version frame.version))
  let recency ← Recency.ofFrame frame.recency
  let tier ← TierMachine.ofFrame frame.tier
  if !frame.books.inRange then throw (.codec (.cachedValue ⟨frame.entity⟩))
  return ofParts ⟨frame.entity⟩ frame.salt frame.cardinality recency
    (.ofFrame frame.statistics) tier frame.heads frame.books

/-- The bytes of a record. -/
def encode (record : Record) : List UInt8 := Frame.layout.write record.frame

/-- The record of some bytes. -/
def decode (bytes : List UInt8) : Except Error Record :=
  if bytes.length ≠ recordLength then .error (.codec (.length bytes.length))
  else ofFrame (Frame.layout.read bytes)

end Record

end Reputation
