/-
**Remembering recent raters.**

The latest feedback of 24 raters is held in a ring and can still be revoked. When the ring is full,
a new rater takes the place of the one under the eviction cursor, but only once the current window
has lasted for the residency time, or has already let its number of writes pass by. Any other new
rater goes to a bypass list of ten slots and the ring stays as it is. A flood of new raters can
therefore keep no more than that number of writes per window from the ring.

An eviction after the residency time opens a new window; one that is forced by the number of writes
does not. A slot answers for its latest write only: revoking an older one finds nothing.

* `Recency.write` records a feedback and says where it went;
* `Recency.revoke` marks a feedback as revoked;
* `Recency.slots` lists what is remembered.
-/

import Reputation.Config.Basic
import Reputation.Raters.Slot

namespace Reputation

/-- Where a feedback was written. -/
inductive Placement where
  /-- Into a free slot of the ring. -/
  | ringInsert
  /-- Over the same rater's slot in the ring. -/
  | ringOverwrite
  /-- Over the slot of another rater in the full ring. -/
  | ringEvict (evicted : Fingerprint)
  /-- Past the ring, into the bypass list. -/
  | bypass
  /-- Over the same rater's slot in the bypass list. -/
  | bypassOverwrite
deriving DecidableEq, Repr

/-- Whether the rater was remembered already. -/
def Placement.isRepeat : Placement → Bool
  | .ringOverwrite | .bypassOverwrite => true
  | _ => false

/-- Whether the feedback went to the bypass list. -/
def Placement.isBypass : Placement → Bool
  | .bypass | .bypassOverwrite => true
  | _ => false

/-- The place of a slot. -/
inductive Location where
  | ring (index : Fin 24)
  | bypass (index : Fin 10)
deriving DecidableEq, Repr

/-- What came of a write. -/
structure WriteOutcome where
  placement : Placement
  /-- The slot of the same rater before it was written over. -/
  previous : Option Slot
deriving DecidableEq, Repr

/-- What came of looking for a feedback to revoke. -/
inductive RevokeLookup where
  | revoked (score : UInt8) (location : Location)
  | alreadyRevoked
  | notFound
deriving DecidableEq, Repr

/-- The ring, the bypass list and the window that protects the ring. -/
structure Recency where
  ring : Vector (Option Slot) 24
  /-- The slot of the ring that is given up next. -/
  evictionCursor : Fin 24
  /-- The time at which the window was opened. -/
  windowStart : UInt64
  bypass : Vector (Option Slot) 10
  /-- The slot of the bypass list that is written next. -/
  bypassCursor : Fin 10
  /-- The writes that passed the ring by in this window. -/
  windowCount : UInt8
deriving DecidableEq, Repr

namespace Recency

/-- Nothing is remembered yet, and the first window opens at the given time. -/
def empty (windowStart : UInt64) : Recency where
  ring := Vector.replicate 24 none
  evictionCursor := 0
  windowStart
  bypass := Vector.replicate 10 none
  bypassCursor := 0
  windowCount := 0

/-- Puts the parts together, with cursors and count in range. -/
def ofParts (ring : Vector (Option Slot) 24) (evictionCursor : UInt8) (windowStart : UInt64)
    (bypass : Vector (Option Slot) 10) (bypassCursor windowCount : UInt8) : Except Error Recency :=
  if range : evictionCursor.toNat < 24 ∧ bypassCursor.toNat < 10 ∧ windowCount.toNat ≤ 10 then .ok
    { ring
      evictionCursor := ⟨evictionCursor.toNat, range.1⟩
      windowStart
      bypass
      bypassCursor := ⟨bypassCursor.toNat, range.2.1⟩
      windowCount }
  else .error (.codec .cursor)

/-- The slots that are taken, ring before bypass list. -/
def slots (recency : Recency) : List Slot :=
  recency.ring.toList.reduceOption ++ recency.bypass.toList.reduceOption

/-- The number of slots taken in the ring. -/
def ringSize (recency : Recency) : Nat := recency.ring.toList.countP Option.isSome

/-- The number of slots taken in the bypass list. -/
def bypassSize (recency : Recency) : Nat := recency.bypass.toList.countP Option.isSome

/-- Whether a slot is taken by the given rater. -/
def heldBy (fingerprint : Fingerprint) (slot : Option Slot) : Bool :=
  slot.any (·.fingerprint = fingerprint)

/-- The place where a rater is remembered, the ring being searched first. -/
def find? (recency : Recency) (fingerprint : Fingerprint) : Option Location :=
  match recency.ring.findFinIdx? (heldBy fingerprint) with
  | some index => some (.ring index)
  | none => (recency.bypass.findFinIdx? (heldBy fingerprint)).map .bypass

/-- What is held at a place. -/
def slot? (recency : Recency) : Location → Option Slot
  | .ring index => recency.ring[index]
  | .bypass index => recency.bypass[index]

/-- Puts a slot at a place. -/
def setSlot (recency : Recency) (slot : Slot) : Location → Recency
  | .ring index => { recency with ring := recency.ring.set index (some slot) }
  | .bypass index => { recency with bypass := recency.bypass.set index (some slot) }

/-- Whether the window has lasted for the residency time. -/
def windowElapsed (recency : Recency) (policy : RingPolicy) (now : UInt64) : Bool :=
  policy.residencyTime.toNat ≤ now.toNat - recency.windowStart.toNat

/-- Whether the window has let its number of writes pass by. -/
def bypassExhausted (recency : Recency) (policy : RingPolicy) : Bool :=
  policy.bypassLimit ≤ recency.windowCount

/-- Writes into a free slot of the ring. -/
def insert (recency : Recency) (free : Fin 24) (fresh : Slot) : Recency :=
  { recency with ring := recency.ring.set free (some fresh), evictionCursor := free + 1 }

/-- Writes over the slot under the eviction cursor. -/
def evict (recency : Recency) (fresh : Slot) : Recency :=
  { recency with
    ring := recency.ring.set recency.evictionCursor (some fresh)
    evictionCursor := recency.evictionCursor + 1 }

/-- Writes past the ring. -/
def passBy (recency : Recency) (fresh : Slot) : Recency :=
  { recency with
    bypass := recency.bypass.set recency.bypassCursor (some fresh)
    bypassCursor := recency.bypassCursor + 1
    windowCount := UInt8.ofNat (min (recency.windowCount.toNat + 1) 255) }

/-- Records a feedback that was not revoked yet. -/
def write (recency : Recency) (policy : RingPolicy) (fingerprint : Fingerprint) (score : UInt8)
    (sequence now : UInt64) : Recency × WriteOutcome :=
  let fresh : Slot := ⟨fingerprint, score, false, sequence, now⟩
  match recency.find? fingerprint with
  | some location =>
    let placement := match location with
      | .ring _ => Placement.ringOverwrite
      | .bypass _ => Placement.bypassOverwrite
    (recency.setSlot fresh location, ⟨placement, recency.slot? location⟩)
  | none =>
    match recency.ring.findFinIdx? Option.isNone with
    | some free => (recency.insert free fresh, ⟨.ringInsert, none⟩)
    | none =>
      let evicted := recency.ring[recency.evictionCursor].elim fingerprint (·.fingerprint)
      if recency.windowElapsed policy now then
        ({ recency.evict fresh with windowStart := now, windowCount := 0 },
          ⟨.ringEvict evicted, none⟩)
      else if recency.bypassExhausted policy then
        (recency.evict fresh, ⟨.ringEvict evicted, none⟩)
      else (recency.passBy fresh, ⟨.bypass, none⟩)

/-- Marks a feedback as revoked, provided that the rater's slot still holds the write with the given
sequence index. -/
def revoke (recency : Recency) (fingerprint : Fingerprint) (sequence : UInt64) :
    Recency × RevokeLookup :=
  match recency.find? fingerprint with
  | none => (recency, .notFound)
  | some location =>
    match recency.slot? location with
    | none => (recency, .notFound)
    | some slot =>
      if slot.sequence ≠ sequence then (recency, .notFound)
      else if slot.revoked then (recency, .alreadyRevoked)
      else (recency.setSlot { slot with revoked := true } location, .revoked slot.score location)

/-- The mean of the scores that are remembered and not revoked. -/
def liveMean (recency : Recency) : Option UInt8 :=
  meanHalfUp ((recency.slots.filter (!·.revoked)).map (·.score))

end Recency

end Reputation
