/-
**What is remembered of recent raters does not depend on their scores.**

Where a feedback is written, what it writes over and whether a revocation finds it are decided by
fingerprints, times and sequence indices. Two memories that differ in nothing but the scores of
their slots therefore stay so, place by place, whatever is written and revoked; and if the scores of
one are never below those of the other, their mean is not either.

* `Slot.Below`, `Recency.Below`: the same but for the scores, which are not lower in the second.
* `Below.find?`, `Below.free`: both memories are searched alike.
* `Below.write`, `Below.revoke`: both answer alike and stay so.
* `Below.liveMean`: the means of the remembered scores are in order.
-/

import Reputation.Proofs.Recency.Step
import Reputation.Proofs.Score.Dominance

namespace Reputation

/-- The slots are the same but for the score, which is not lower in the second. -/
structure Slot.Below (first second : Slot) : Prop where
  fingerprint : first.fingerprint = second.fingerprint
  score : first.score ≤ second.score
  revoked : first.revoked = second.revoked
  sequence : first.sequence = second.sequence
  writtenAt : first.writtenAt = second.writtenAt

/-- The lookups are the same but for the score that was found, which is not lower in the second. -/
inductive RevokeLookup.Below : RevokeLookup → RevokeLookup → Prop
  | revoked {score raised : UInt8} (le : score ≤ raised) (location : Location) :
      Below (.revoked score location) (.revoked raised location)
  | alreadyRevoked : Below .alreadyRevoked .alreadyRevoked
  | notFound : Below .notFound .notFound

namespace Recency

/-- The memories are the same but for the scores, which are not lower in the second. -/
structure Below (first second : Recency) : Prop where
  slots : ∀ location, Option.Rel Slot.Below (first.slot? location) (second.slot? location)
  evictionCursor : first.evictionCursor = second.evictionCursor
  windowStart : first.windowStart = second.windowStart
  bypassCursor : first.bypassCursor = second.bypassCursor
  windowCount : first.windowCount = second.windowCount

variable {first second : Recency} {policy : RingPolicy} {fingerprint : Fingerprint}
  {one two : Slot} {location : Location}

theorem below_refl (recency : Recency) : recency.Below recency where
  slots location := by
    cases recency.slot? location with
    | none => exact .none
    | some slot => exact .some ⟨rfl, UInt8.le_refl _, rfl, rfl, rfl⟩
  evictionCursor := rfl
  windowStart := rfl
  bypassCursor := rfl
  windowCount := rfl

/-! ### Searching -/

theorem findFinIdx?_congr {Item Other : Type} {size : Nat} {items : Vector Item size}
    {others : Vector Other size} {wanted : Item → Bool} {wantedToo : Other → Bool}
    (same : ∀ index : Fin size, wanted (items.get index) = wantedToo (others.get index)) :
    items.findFinIdx? wanted = others.findFinIdx? wantedToo := by
  cases here : items.findFinIdx? wanted with
  | none =>
    symm
    rw [Vector.findFinIdx?_eq_none_iff] at here ⊢
    rintro item member
    obtain ⟨index, bound, rfl⟩ := Vector.getElem_of_mem member
    have unwanted : wanted (items.get ⟨index, bound⟩) ≠ true := here _ (Vector.getElem_mem bound)
    rwa [same ⟨index, bound⟩] at unwanted
  | some index =>
    obtain ⟨found, firstHere⟩ := first_of_findFinIdx? here
    rw [same index] at found
    cases there : others.findFinIdx? wantedToo with
    | none =>
      exact absurd found
        (Vector.findFinIdx?_eq_none_iff.mp there _ (Vector.getElem_mem index.isLt))
    | some place =>
      obtain ⟨foundToo, firstThere⟩ := first_of_findFinIdx? there
      rw [← same place] at foundToo
      -- Neither place can come before the other, since both are the first that is wanted.
      rcases Nat.lt_trichotomy index.val place.val with before | equal | after
      · exact absurd found (firstThere _ before)
      · exact congrArg some (Fin.ext equal)
      · exact absurd foundToo (firstHere _ after)

theorem Below.find? (below : first.Below second) (fingerprint : Fingerprint) :
    first.find? fingerprint = second.find? fingerprint := by
  have held {one two : Option Slot} (below : Option.Rel Slot.Below one two) :
      heldBy fingerprint one = heldBy fingerprint two := by
    cases below with
    | none => rfl
    | some below => simp [heldBy, below.fingerprint]
  unfold Recency.find?
  rw [findFinIdx?_congr fun index => held (below.slots (.ring index)),
    findFinIdx?_congr fun index => held (below.slots (.bypass index))]

theorem Below.free (below : first.Below second) :
    first.ring.findFinIdx? Option.isNone = second.ring.findFinIdx? Option.isNone := by
  have empty {one two : Option Slot} (below : Option.Rel Slot.Below one two) :
      one.isNone = two.isNone := by
    cases below <;> rfl
  exact findFinIdx?_congr fun index => empty (below.slots (.ring index))

/-! ### Writing -/

theorem Below.slots_of_puts {next after : Recency} (below : first.Below second)
    (fresh : one.Below two) (puts : Puts first one location next)
    (putsToo : Puts second two location after) (other : Location) :
    Option.Rel Slot.Below (next.slot? other) (after.slot? other) := by
  rw [puts other, putsToo other]
  split
  · exact .some fresh
  · exact below.slots other

theorem Below.setSlot (below : first.Below second) (fresh : one.Below two) (location : Location) :
    (first.setSlot one location).Below (second.setSlot two location) where
  slots := below.slots_of_puts fresh (setSlot_puts first one location)
    (setSlot_puts second two location)
  evictionCursor := by simpa using below.evictionCursor
  windowStart := by simpa using below.windowStart
  bypassCursor := by simpa using below.bypassCursor
  windowCount := by simpa using below.windowCount

theorem Below.insert (below : first.Below second) (fresh : one.Below two) (free : Fin 24) :
    (first.insert free one).Below (second.insert free two) :=
  { below.setSlot fresh (.ring free) with evictionCursor := rfl }

theorem Below.evict (below : first.Below second) (fresh : one.Below two) :
    (first.evict one).Below (second.evict two) where
  slots := below.slots_of_puts fresh (evict_puts first one)
    (below.evictionCursor ▸ evict_puts second two)
  evictionCursor := congrArg (· + 1) below.evictionCursor
  windowStart := below.windowStart
  bypassCursor := below.bypassCursor
  windowCount := below.windowCount

theorem Below.passBy (below : first.Below second) (fresh : one.Below two) :
    (first.passBy one).Below (second.passBy two) where
  slots := below.slots_of_puts fresh (passBy_puts first one)
    (below.bypassCursor ▸ passBy_puts second two)
  evictionCursor := below.evictionCursor
  windowStart := below.windowStart
  bypassCursor := congrArg (· + 1) below.bypassCursor
  windowCount := by
    show UInt8.ofNat _ = UInt8.ofNat _
    rw [below.windowCount]

/-- **A write goes to the same place in both memories.** -/
theorem Below.write (below : first.Below second) (policy : RingPolicy)
    (fingerprint : Fingerprint) {score raised : UInt8} (le : score ≤ raised)
    (sequence now : UInt64) :
    let written := first.write policy fingerprint score sequence now
    let writtenToo := second.write policy fingerprint raised sequence now
    written.1.Below writtenToo.1 ∧ written.2.placement = writtenToo.2.placement ∧
      Option.Rel Slot.Below written.2.previous writtenToo.2.previous := by
  have fresh : Slot.Below ⟨fingerprint, score, false, sequence, now⟩
      ⟨fingerprint, raised, false, sequence, now⟩ := ⟨rfl, le, rfl, rfl, rfl⟩
  have under {one two : Option Slot} (below : Option.Rel Slot.Below one two) :
      one.elim fingerprint (·.fingerprint) = two.elim fingerprint (·.fingerprint) := by
    cases below with
    | none => rfl
    | some below => exact below.fingerprint
  have evicted : first.ring[first.evictionCursor].elim fingerprint (·.fingerprint) =
      second.ring[second.evictionCursor].elim fingerprint (·.fingerprint) :=
    (under (below.slots (.ring first.evictionCursor))).trans
      (congrArg (fun cursor => (second.slot? (.ring cursor)).elim fingerprint (·.fingerprint))
        below.evictionCursor)
  have elapsed : first.windowElapsed policy now = second.windowElapsed policy now := by
    rw [windowElapsed, windowElapsed, below.windowStart]
  have exhausted : first.bypassExhausted policy = second.bypassExhausted policy := by
    rw [bypassExhausted, bypassExhausted, below.windowCount]
  dsimp only
  unfold Recency.write
  rw [below.find? fingerprint, below.free]
  split
  · rename_i location found
    exact ⟨below.setSlot fresh location, rfl, below.slots location⟩
  · split
    · rename_i free first
      exact ⟨below.insert fresh free, rfl, .none⟩
    · rw [evicted, elapsed, exhausted]
      split
      · exact ⟨{ below.evict fresh with windowStart := rfl, windowCount := rfl }, rfl, .none⟩
      · split
        · exact ⟨below.evict fresh, rfl, .none⟩
        · exact ⟨below.passBy fresh, rfl, .none⟩

/-! ### Revoking -/

/-- **A revocation finds the same feedback in both memories.** -/
theorem Below.revoke (below : first.Below second) (fingerprint : Fingerprint)
    (sequence : UInt64) :
    (first.revoke fingerprint sequence).1.Below (second.revoke fingerprint sequence).1 ∧
      (first.revoke fingerprint sequence).2.Below (second.revoke fingerprint sequence).2 := by
  unfold Recency.revoke
  rw [below.find? fingerprint]
  split
  · exact ⟨below, .notFound⟩
  · rename_i location found
    have slots := below.slots location
    generalize first.slot? location = held, second.slot? location = heldToo at slots
    cases slots with
    | none => exact ⟨below, .notFound⟩
    | @some one two same =>
      dsimp only
      rw [same.sequence, same.revoked]
      split
      · exact ⟨below, .notFound⟩
      · split
        · exact ⟨below, .alreadyRevoked⟩
        · have marked : Slot.Below { one with sequence := two.sequence, revoked := true }
              { two with revoked := true } := { same with sequence := rfl, revoked := rfl }
          exact ⟨below.setSlot marked location, .revoked same.score location⟩

/-! ### The mean of what is remembered -/

theorem Below.slots_forall₂ (below : first.Below second) :
    List.Forall₂ Slot.Below first.slots second.slots := by
  have taken {slots others : List (Option Slot)}
      (below : List.Forall₂ (Option.Rel Slot.Below) slots others) :
      List.Forall₂ Slot.Below slots.reduceOption others.reduceOption :=
    List.rel_filterMap (fun _ _ => id) below
  exact List.rel_append (taken (forall₂_toList fun index => below.slots (.ring index)))
    (taken (forall₂_toList fun index => below.slots (.bypass index)))

/-- **The means of the remembered scores are in order.** -/
theorem Below.liveMean (below : first.Below second) :
    Option.Rel (· ≤ ·) first.liveMean second.liveMean := by
  refine meanHalfUp_mono (List.rel_map (fun _ _ same => Slot.Below.score same) ?_)
  refine List.rel_filter (fun one two same => ?_) below.slots_forall₂
  show (!one.revoked) = true ↔ (!two.revoked) = true
  rw [Slot.Below.revoked same]

end Recency

end Reputation
