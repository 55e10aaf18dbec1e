/-
**Record frames.**

A frame holds the numbers that stand for a record, field by field and not yet looked into. Its
layout has 1163 bytes, whatever the entity has been through; any string of that length is the
layout of exactly one frame.

Two registers share a byte, the first of a pair in the low half. Each list of slots comes after a
word of marks, whose bits tell from the lowest on which slots are taken.
-/

import Reputation.Bytes.Layout
import Reputation.Event.Chain
import Reputation.Raters.Cardinality

namespace Reputation

/-- The numbers that stand for a slot. -/
structure SlotFrame where
  /-- Fingerprint, score and mark in one word. -/
  word : UInt64
  sequence : UInt64
  writtenAt : UInt64
deriving DecidableEq, Repr

/-- The numbers that stand for what is remembered of recent raters. -/
structure RecencyFrame where
  ringMarks : UInt32
  ring : Vector SlotFrame 24
  evictionCursor : UInt8
  windowStart : UInt64
  bypassMarks : UInt16
  bypass : Vector SlotFrame 10
  bypassCursor : UInt8
  windowCount : UInt8
deriving DecidableEq, Repr

/-- The numbers that stand for the statistics. -/
structure StatisticsFrame where
  fast : UInt32
  slow : UInt32
  volatility : UInt32
  arrival : UInt32
  /-- Not zero when a time between events has been seen. -/
  arrivalSeeded : UInt8
  burst : UInt8
  negative : UInt8
  loyalty : UInt8
  peak : UInt32
  drawdown : UInt32
deriving DecidableEq, Repr

/-- The numbers that stand for the tier. -/
structure TierFrame where
  confirmed : UInt8
  candidate : UInt8
  candidateEpoch : UInt64
deriving DecidableEq, Repr

/-- The scores and counters of a record. -/
structure BooksFrame where
  quality : UInt32
  risk : UInt8
  confidence : UInt8
  diversity : UInt8
  feedbackCount : UInt32
  revokedCount : UInt32
  responseCount : UInt32
  minScore : UInt8
  maxScore : UInt8
  firstScore : UInt8
  lastScore : UInt8
  epochCount : UInt32
  currentEpoch : UInt64
  firstSeen : UInt64
  lastSeen : UInt64
deriving DecidableEq, Repr

/-- The numbers that stand for a record. -/
structure Frame where
  version : UInt8
  entity : UInt64
  salt : UInt64
  cardinality : Cardinality
  recency : RecencyFrame
  statistics : StatisticsFrame
  tier : TierFrame
  heads : Heads
  books : BooksFrame
deriving DecidableEq, Repr

/-- The layout of a pair of registers. -/
def registerPairLayout : Layout (Fin 16 × Fin 16) :=
  Layout.byte.via
    (fun pair => UInt8.ofNat (pair.1.val + 16 * pair.2.val))
    (fun byte => (lowRank byte.toNat, lowRank (byte.toNat / 16)))
    (fun pair => by
      have low := pair.1.isLt
      have high := pair.2.isLt
      have small : pair.1.val + 16 * pair.2.val < 2 ^ 8 := by omega
      refine Prod.ext (Fin.ext ?_) (Fin.ext ?_)
      · simp only [lowRank, UInt8.toNat_ofNat_of_lt' small]
        omega
      · simp only [lowRank, UInt8.toNat_ofNat_of_lt' small]
        omega)
    (fun byte => by
      have small := byte.toNat_lt
      apply UInt8.toNat_inj.mp
      rw [UInt8.toNat_ofNat']
      simp only [lowRank]
      omega)

namespace Cardinality

/-- The registers two by two. -/
def pairs (cardinality : Cardinality) : Vector (Fin 16 × Fin 16) 128 :=
  Vector.ofFn fun place =>
    (cardinality.registers[(⟨2 * place.val, by omega⟩ : Fin 256)],
      cardinality.registers[(⟨2 * place.val + 1, by omega⟩ : Fin 256)])

/-- The registers of some pairs. -/
def ofPairs (pairs : Vector (Fin 16 × Fin 16) 128) : Cardinality :=
  ⟨Vector.ofFn fun place =>
    let pair := pairs[(⟨place.val / 2, by omega⟩ : Fin 128)]
    if place.val % 2 = 0 then pair.1 else pair.2⟩

theorem ofPairs_pairs (cardinality : Cardinality) : ofPairs cardinality.pairs = cardinality := by
  obtain ⟨registers⟩ := cardinality
  refine congrArg Cardinality.mk (Vector.ext fun place bound => ?_)
  simp only [pairs, Vector.getElem_ofFn, Fin.getElem_fin]
  split
  · congr 1
    omega
  · congr 1
    omega

theorem pairs_ofPairs (pairs : Vector (Fin 16 × Fin 16) 128) : (ofPairs pairs).pairs = pairs := by
  refine Vector.ext fun place bound => ?_
  have odd : (2 * place + 1) / 2 = place := by omega
  simp [ofPairs, Cardinality.pairs, odd, Nat.add_mod]

end Cardinality

namespace Frame

/-- The layout of the registers. -/
def cardinalityLayout : Layout Cardinality :=
  (registerPairLayout.vector 128).via Cardinality.pairs Cardinality.ofPairs
    Cardinality.ofPairs_pairs Cardinality.pairs_ofPairs

/-- The layout of a slot. -/
def slotLayout : Layout SlotFrame :=
  (Layout.word64.beside (Layout.word64.beside Layout.word64)).via
    (fun slot => (slot.word, slot.sequence, slot.writtenAt))
    (fun (word, sequence, writtenAt) => ⟨word, sequence, writtenAt⟩)
    (fun _ => rfl) (fun _ => rfl)

/-- The layout of what is remembered of recent raters. -/
def recencyLayout : Layout RecencyFrame :=
  (Layout.word32.beside <| (slotLayout.vector 24).beside <| Layout.byte.beside <|
    Layout.word64.beside <| Layout.word16.beside <| (slotLayout.vector 10).beside <|
    Layout.byte.beside Layout.byte).via
    (fun recency => (recency.ringMarks, recency.ring, recency.evictionCursor, recency.windowStart,
      recency.bypassMarks, recency.bypass, recency.bypassCursor, recency.windowCount))
    (fun (ringMarks, ring, evictionCursor, windowStart, bypassMarks, bypass, bypassCursor,
        windowCount) =>
      ⟨ringMarks, ring, evictionCursor, windowStart, bypassMarks, bypass, bypassCursor,
        windowCount⟩)
    (fun _ => rfl) (fun _ => rfl)

/-- The layout of the statistics. -/
def statisticsLayout : Layout StatisticsFrame :=
  (Layout.word32.beside <| Layout.word32.beside <| Layout.word32.beside <|
    Layout.word32.beside <| Layout.byte.beside <| Layout.byte.beside <| Layout.byte.beside <|
    Layout.byte.beside <| Layout.word32.beside Layout.word32).via
    (fun statistics => (statistics.fast, statistics.slow, statistics.volatility,
      statistics.arrival, statistics.arrivalSeeded, statistics.burst, statistics.negative,
      statistics.loyalty, statistics.peak, statistics.drawdown))
    (fun (fast, slow, volatility, arrival, arrivalSeeded, burst, negative, loyalty, peak,
        drawdown) =>
      ⟨fast, slow, volatility, arrival, arrivalSeeded, burst, negative, loyalty, peak, drawdown⟩)
    (fun _ => rfl) (fun _ => rfl)

/-- The layout of the tier. -/
def tierLayout : Layout TierFrame :=
  (Layout.byte.beside (Layout.byte.beside Layout.word64)).via
    (fun tier => (tier.confirmed, tier.candidate, tier.candidateEpoch))
    (fun (confirmed, candidate, candidateEpoch) => ⟨confirmed, candidate, candidateEpoch⟩)
    (fun _ => rfl) (fun _ => rfl)

/-- The layout of the heads. -/
def headsLayout : Layout Heads :=
  (Layout.bytes32.beside (Layout.bytes32.beside Layout.bytes32)).via
    (fun heads => (heads.feedback, heads.revocation, heads.response))
    (fun (feedback, revocation, response) => ⟨feedback, revocation, response⟩)
    (fun _ => rfl) (fun _ => rfl)

/-- The layout of the scores and counters. -/
def booksLayout : Layout BooksFrame :=
  (Layout.word32.beside <| Layout.byte.beside <| Layout.byte.beside <| Layout.byte.beside <|
    Layout.word32.beside <| Layout.word32.beside <| Layout.word32.beside <| Layout.byte.beside <|
    Layout.byte.beside <| Layout.byte.beside <| Layout.byte.beside <| Layout.word32.beside <|
    Layout.word64.beside <| Layout.word64.beside Layout.word64).via
    (fun books => (books.quality, books.risk, books.confidence, books.diversity,
      books.feedbackCount, books.revokedCount, books.responseCount, books.minScore,
      books.maxScore, books.firstScore, books.lastScore, books.epochCount, books.currentEpoch,
      books.firstSeen, books.lastSeen))
    (fun (quality, risk, confidence, diversity, feedbackCount, revokedCount, responseCount,
        minScore, maxScore, firstScore, lastScore, epochCount, currentEpoch, firstSeen,
        lastSeen) =>
      ⟨quality, risk, confidence, diversity, feedbackCount, revokedCount, responseCount, minScore,
        maxScore, firstScore, lastScore, epochCount, currentEpoch, firstSeen, lastSeen⟩)
    (fun _ => rfl) (fun _ => rfl)

/-- The layout of a frame. -/
def layout : Layout Frame :=
  (Layout.byte.beside <| Layout.word64.beside <| Layout.word64.beside <|
    cardinalityLayout.beside <| recencyLayout.beside <| statisticsLayout.beside <|
    tierLayout.beside <| headsLayout.beside booksLayout).via
    (fun frame => (frame.version, frame.entity, frame.salt, frame.cardinality, frame.recency,
      frame.statistics, frame.tier, frame.heads, frame.books))
    (fun (version, entity, salt, cardinality, recency, statistics, tier, heads, books) =>
      ⟨version, entity, salt, cardinality, recency, statistics, tier, heads, books⟩)
    (fun _ => rfl) (fun _ => rfl)

theorem layout_width : layout.width = recordLength := rfl

end Frame

end Reputation
