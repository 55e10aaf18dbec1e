/-
**What can still be revoked.**

A slot is live while it is taken and not revoked. A write makes one slot live, whatever it writes
over, and a revocation that finds its feedback takes one live slot away. Nothing else changes the
number of live slots but that a write may give some up.

* `liveCount_setSlot`: putting a slot at a place, counted exactly.
* `WriteCase.liveCount_le`: a write adds at most one live slot.
* `RevokeCase.liveCount_struck`: a revocation with success takes one away.
-/

import Reputation.Proofs.Recency.Step

namespace Reputation.Recency

/-- Whether a slot is taken and not revoked. -/
def isLive (held : Option Slot) : Bool := held.any (!·.revoked)

/-- The number of slots that are taken and not revoked, in the ring and in the bypass list. -/
def liveCount (recency : Recency) : Nat := recency.slots.countP (!·.revoked)

variable {recency next : Recency} {policy : RingPolicy} {fresh : Slot} {location : Location}

theorem countP_reduceOption (held : List (Option Slot)) :
    held.reduceOption.countP (!·.revoked) = held.countP isLive := by
  show (held.filterMap id).countP (!·.revoked) = _
  rw [List.countP_filterMap]
  congr 1
  funext slot
  cases slot <;> rfl

theorem liveCount_eq (recency : Recency) :
    recency.liveCount = recency.ring.countP isLive + recency.bypass.countP isLive := by
  rw [liveCount, slots, List.countP_append, countP_reduceOption, countP_reduceOption,
    Vector.countP_toList, Vector.countP_toList]

@[simp] theorem liveCount_empty (windowStart : UInt64) : (empty windowStart).liveCount = 0 := by
  rw [liveCount_eq]
  simp [empty, isLive]

theorem countP_isLive_set {size place : Nat} (slots : Vector (Option Slot) size)
    (inside : place < size) (held : Option Slot) :
    (slots.set place held).countP isLive + (isLive slots[place]).toNat =
      slots.countP isLive + (isLive held).toNat := by
  have one : (isLive slots[place]).toNat ≤ slots.countP isLive := by
    cases live : isLive slots[place] with
    | false => exact Nat.zero_le _
    | true => exact Vector.countP_pos_iff.mpr ⟨_, Vector.getElem_mem inside, live⟩
  have counted : (slots.set place held).countP isLive =
      (slots.countP isLive - if isLive slots[place] then 1 else 0) + if isLive held then 1 else 0 :=
    Vector.countP_set inside
  have toNat (live : Bool) : (if live = true then 1 else 0) = live.toNat := by
    cases live <;> rfl
  rw [toNat, toNat] at counted
  omega

/-- **Putting a slot at a place, counted exactly.** What was live at the place is given up. -/
theorem liveCount_setSlot (recency : Recency) (fresh : Slot) (location : Location) :
    (recency.setSlot fresh location).liveCount + (isLive (recency.slot? location)).toNat =
      recency.liveCount + (!fresh.revoked).toNat := by
  rw [liveCount_eq, liveCount_eq]
  cases location with
  | ring index =>
    have counted := countP_isLive_set recency.ring index.isLt (some fresh)
    simp only [setSlot, slot?, Fin.getElem_fin, isLive, Option.any_some] at counted ⊢
    omega
  | bypass index =>
    have counted := countP_isLive_set recency.bypass index.isLt (some fresh)
    simp only [setSlot, slot?, Fin.getElem_fin, isLive, Option.any_some] at counted ⊢
    omega

theorem liveCount_setSlot_le (recency : Recency) (fresh : Slot) (location : Location) :
    (recency.setSlot fresh location).liveCount ≤ recency.liveCount + 1 := by
  have counted := recency.liveCount_setSlot fresh location
  have one := (!fresh.revoked).toNat_le
  omega

/-- **A write adds at most one live slot.** Cursors and window have no part in the count. -/
theorem WriteCase.liveCount_le {outcome : WriteOutcome}
    (case : WriteCase recency policy fresh next outcome) :
    next.liveCount ≤ recency.liveCount + 1 := by
  cases case with
  | @overwritten location => exact recency.liveCount_setSlot_le fresh location
  | @inserted free => exact recency.liveCount_setSlot_le fresh (.ring free)
  | elapsed | forced => exact recency.liveCount_setSlot_le fresh (.ring recency.evictionCursor)
  | passed => exact recency.liveCount_setSlot_le fresh (.bypass recency.bypassCursor)

/-- **A revocation with success takes one live slot away.** -/
theorem RevokeCase.liveCount_struck {fingerprint : Fingerprint} {sequence : UInt64} {score : UInt8}
    (case : RevokeCase recency fingerprint sequence next (.revoked score location)) :
    next.liveCount + 1 = recency.liveCount := by
  cases case with
  | @struck _ slot found holds same unmarked =>
    have counted := recency.liveCount_setSlot { slot with revoked := true } location
    simpa [holds, isLive, unmarked] using counted

end Reputation.Recency
