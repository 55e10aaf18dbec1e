/-
**Raters leave the ring in the order in which they came.**

The writes that enter the ring, into a free slot or over the slot of another rater, are numbered by
a history from zero. Write `number` takes the place `number % 24`, so the ring is a window on the
latest 24 of these writes, and the eviction cursor stands under the oldest of them once the ring is
full. Whatever else is asked of the memory moves neither the raters in the ring nor the cursor.

* `entrances`, `entered`, `evicted`: the writes that entered, their raters, and the raters that
  were reported as evicted.
* `Rotation`: the ring shows the latest raters that entered.
* `RingStep`, `call_ringStep`: a call leaves the raters in the ring alone, takes the first free
  slot, or takes the slot under the cursor.
* `Queued.step`: every call keeps the ring in step with the history.
* **`first_in_first_out`**: the order of evictions after every run.
-/

import Reputation.Config.Bounds
import Reputation.Proofs.Recency.History

namespace Reputation

/-- Whether a new rater was written into the ring. -/
def Placement.entersRing : Placement → Bool
  | .ringInsert | .ringEvict _ => true
  | _ => false

/-- The rater whose slot was given up. -/
def Placement.evicted? : Placement → Option Fingerprint
  | .ringEvict rater => some rater
  | _ => none

namespace Recency

/-! ### What a history says of the ring -/

section Histories

/-- A write that entered the ring. -/
structure Entrance where
  rater : Fingerprint
  placement : Placement

/-- The write of a reply, if it entered the ring. -/
def Reply.entrance? : Reply → Option Entrance
  | .written write outcome =>
    if outcome.placement.entersRing then some ⟨write.fingerprint, outcome.placement⟩ else none
  | .answered .. => none

/-- The writes that entered the ring, in the order of the calls. -/
def entrances (history : List Reply) : List Entrance := history.filterMap (·.entrance?)

/-- The raters that entered the ring. -/
def entered (history : List Reply) : List Fingerprint := (entrances history).map (·.rater)

/-- The raters that were reported as evicted. -/
def evicted (history : List Reply) : List Fingerprint :=
  (entrances history).filterMap (·.placement.evicted?)

variable {history : List Reply} {reply : Reply} {entrance : Entrance}

theorem entrances_concat_of_none (silent : reply.entrance? = none) :
    entrances (history ++ [reply]) = entrances history := by
  simp only [entrances, List.filterMap_append, List.filterMap_cons, silent, List.filterMap_nil,
    List.append_nil]

theorem entrances_concat_of_some (enters : reply.entrance? = some entrance) :
    entrances (history ++ [reply]) = entrances history ++ [entrance] := by
  simp only [entrances, List.filterMap_append, List.filterMap_cons, enters, List.filterMap_nil]

theorem entered_concat (enters : reply.entrance? = some entrance) :
    entered (history ++ [reply]) = entered history ++ [entrance.rater] := by
  rw [entered, entrances_concat_of_some enters, List.map_append]
  rfl

theorem evicted_concat_of_inserted (enters : reply.entrance? = some entrance)
    (inserted : entrance.placement = .ringInsert) :
    evicted (history ++ [reply]) = evicted history := by
  rw [evicted, entrances_concat_of_some enters, List.filterMap_append]
  simp only [List.filterMap_cons, inserted, Placement.evicted?, List.filterMap_nil,
    List.append_nil, evicted]

theorem evicted_concat_of_evicted {rater : Fingerprint} (enters : reply.entrance? = some entrance)
    (gave : entrance.placement = .ringEvict rater) :
    evicted (history ++ [reply]) = evicted history ++ [rater] := by
  rw [evicted, entrances_concat_of_some enters, List.filterMap_append]
  simp only [List.filterMap_cons, gave, Placement.evicted?, List.filterMap_nil, evicted]

theorem length_entrances (history : List Reply) :
    (entrances history).length = (entered history).length := (List.length_map _).symm

end Histories

/-! ### The ring as a rotation -/

section Rotations

/-- The rater under the eviction cursor. -/
def nextOut? (recency : Recency) : Option Fingerprint :=
  recency.rater? (.ring recency.evictionCursor)

/-- The place in the ring of the write with the given number. -/
def turn (number : Nat) : Fin 24 := ⟨number % 24, Nat.mod_lt number (by decide)⟩

/-- **The ring shows the latest 24 raters that entered, each at its turn.** While fewer have
entered, the places of those to come are free. -/
structure Rotation (raters : List Fingerprint) (recency : Recency) : Prop where
  cursor : recency.evictionCursor = turn raters.length
  shows : ∀ number, raters.length - 24 ≤ number → number < raters.length - 24 + 24 →
    recency.rater? (.ring (turn number)) = raters[number]?

variable {recency next : Recency} {raters : List Fingerprint} {fresh : Slot}

theorem rotation_empty (windowStart : UInt64) : Rotation [] (empty windowStart) where
  cursor := rfl
  shows number _ _ := by
    rw [rater?_eq_none.mpr (slot?_empty windowStart (.ring (turn number)))]
    rfl

/-- **One more rater enters under the cursor.** -/
theorem Rotation.enter (rotation : Rotation raters recency)
    (puts : Puts recency fresh (.ring recency.evictionCursor) next)
    (advanced : next.evictionCursor = recency.evictionCursor + 1) :
    Rotation (raters ++ [fresh.fingerprint]) next := by
  constructor
  · rw [advanced, rotation.cursor, List.length_append]
    apply Fin.ext
    show (raters.length % 24 + 1) % 24 = (raters.length + 1) % 24
    omega
  · intro number low high
    rw [List.length_append] at low high
    simp only [List.length_singleton] at low high
    rw [puts.rater?, rotation.cursor]
    by_cases last : number = raters.length
    · rw [last, if_pos rfl, List.getElem?_concat_length]
    · -- The ring is one turn long, so no other number in it falls on the place of the new one.
      have elsewhere : Location.ring (turn number) ≠ .ring (turn raters.length) := by
        intro same
        have equal : number % 24 = raters.length % 24 := congrArg Fin.val (Location.ring.inj same)
        omega
      rw [if_neg elsewhere, rotation.shows number (by omega) (by omega)]
      by_cases before : number < raters.length
      · rw [List.getElem?_append_left before]
      · have beyond : raters.length + 1 ≤ number := by omega
        rw [List.getElem?_eq_none (by omega), List.getElem?_eq_none (by simpa using beyond)]

/-- The ring is full from the 24th rater on. -/
theorem Rotation.taken (rotation : Rotation raters recency) (full : 24 ≤ raters.length)
    (index : Fin 24) : recency.rater? (.ring index) ≠ none := by
  have small := index.isLt
  obtain ⟨number, low, high, here⟩ : ∃ number, raters.length - 24 ≤ number ∧
      number < raters.length - 24 + 24 ∧ number % 24 = index.val :=
    ⟨raters.length - 24 + (index.val + 24 - (raters.length - 24) % 24) % 24, by omega, by omega,
      by omega⟩
  have same : turn number = index := Fin.ext here
  rw [← same, rotation.shows number low high, List.getElem?_eq_getElem (by omega)]
  exact Option.some_ne_none _

/-- While fewer have entered, the slots are taken from the first on. -/
theorem Rotation.taken_iff (rotation : Rotation raters recency) (index : Fin 24) :
    recency.rater? (.ring index) ≠ none ↔ index.val < raters.length := by
  have small := index.isLt
  by_cases full : 24 ≤ raters.length
  · exact ⟨fun _ => by omega, fun _ => rotation.taken full index⟩
  · have same : turn index.val = index := Fin.ext (Nat.mod_eq_of_lt small)
    have shown := rotation.shows index.val (by omega) (by omega)
    rw [same] at shown
    rw [shown, Ne, List.getElem?_eq_none_iff, Nat.not_le]

theorem Rotation.full_of_taken (rotation : Rotation raters recency)
    (taken : ∀ index, recency.rater? (.ring index) ≠ none) : 24 ≤ raters.length := by
  by_contra few
  have free : raters.length < 24 := Nat.lt_of_not_le few
  exact Nat.lt_irrefl _ ((rotation.taken_iff ⟨raters.length, free⟩).mp (taken _))

/-- The cursor of a full ring has gone round: it stands under the oldest rater. -/
theorem Rotation.nextOut?_eq (rotation : Rotation raters recency) (full : 24 ≤ raters.length) :
    recency.nextOut? = raters[raters.length - 24]? := by
  have round : turn raters.length = turn (raters.length - 24) := by
    apply Fin.ext
    show raters.length % 24 = (raters.length - 24) % 24
    omega
  rw [nextOut?, rotation.cursor, round]
  exact rotation.shows (raters.length - 24) (Nat.le_refl _) (by omega)

/-- The ring has as many slots taken as raters have entered, up to its capacity. -/
theorem Rotation.ringSize (rotation : Rotation raters recency) :
    recency.ringSize = min 24 raters.length := by
  have slots : recency.ring.toList = (List.finRange 24).map fun index => recency.ring[index] := by
    apply List.ext_getElem (by simp)
    intro place inside outside
    simp
  have taken : ∀ index : Fin 24,
      (recency.ring[index]).isSome = decide (index.val < raters.length) := by
    intro index
    rw [Bool.eq_iff_iff, decide_eq_true_eq, ← rotation.taken_iff index, Ne, rater?_eq_none,
      Option.isSome_iff_ne_none]
    rfl
  have counted : ∀ count : Fin 25,
      (List.finRange 24).countP (fun index => decide (index.val < count.val)) = count.val := by
    decide +kernel
  have least : ∀ index : Fin 24,
      decide (index.val < raters.length) = decide (index.val < min 24 raters.length) := by
    intro index
    have small := index.isLt
    rw [decide_eq_decide]
    omega
  rw [Recency.ringSize, slots, List.countP_map]
  calc (List.finRange 24).countP (Option.isSome ∘ fun index => recency.ring[index])
      = (List.finRange 24).countP (fun index => decide (index.val < min 24 raters.length)) :=
        List.countP_congr fun index _ => by rw [Function.comp_apply, taken, least]
    _ = min 24 raters.length := counted ⟨min 24 raters.length, by omega⟩

end Rotations

/-! ### What a call does to the ring -/

section Steps

/-- What a call can do to the raters in the ring. -/
inductive RingStep (recency : Recency) : Reply → Recency → Prop
  /-- The raters stay, and so does the cursor. -/
  | stayed {reply : Reply} {next : Recency} (silent : reply.entrance? = none)
      (same : ∀ index, next.rater? (.ring index) = recency.rater? (.ring index))
      (cursor : next.evictionCursor = recency.evictionCursor) : RingStep recency reply next
  /-- A rater enters at the first free slot. -/
  | inserted {write : Write} {free : Fin 24}
      (first : recency.ring.findFinIdx? Option.isNone = some free) :
      RingStep recency (.written write ⟨.ringInsert, none⟩)
        (recency.insert free (write.slot false))
  /-- The ring is full, and a rater enters in place of the one under the cursor. -/
  | evicted {write : Write} {next : Recency} {rater : Fingerprint}
      (full : ∀ index, recency.rater? (.ring index) ≠ none) (under : recency.nextOut? = some rater)
      (puts : Puts recency (write.slot false) (.ring recency.evictionCursor) next)
      (advanced : next.evictionCursor = recency.evictionCursor + 1) :
      RingStep recency (.written write ⟨.ringEvict rater, none⟩) next

variable {recency next : Recency} {write : Write} {outcome : WriteOutcome}
  {fingerprint : Fingerprint} {sequence : UInt64} {lookup : RevokeLookup}

/-- The slots before the first free one are taken. -/
theorem rater?_ne_none_of_lt {free index : Fin 24}
    (first : recency.ring.findFinIdx? Option.isNone = some free) (before : index < free) :
    recency.rater? (.ring index) ≠ none := by
  intro isFree
  have taken := (first_of_findFinIdx? first).2 _ before
  exact taken (Option.isNone_iff_eq_none.mpr (rater?_eq_none.mp isFree))

theorem rater?_ne_none_of_full (full : recency.ring.findFinIdx? Option.isNone = none)
    (index : Fin 24) : recency.rater? (.ring index) ≠ none := by
  obtain ⟨slot, holds⟩ := taken_of_full full index
  rw [rater?, holds]
  exact Option.some_ne_none _

theorem WriteCase.ringStep (case : WriteCase recency write.policy (write.slot false) next outcome) :
    RingStep recency (.written write outcome) next := by
  cases case with
  | @overwritten location previous found holds =>
    have same : (write.slot false).fingerprint = previous.fingerprint :=
      (fingerprint_of_find? found holds).symm
    refine .stayed ?_ (fun index => rater?_setSlot holds same) setSlot_evictionCursor
    cases location <;> rfl
  | inserted absent first => exact .inserted first
  | elapsed absent full under lasted =>
    refine .evicted (rater?_ne_none_of_full full) ?_ ?_ rfl
    · rw [nextOut?, rater?, under]
      rfl
    · exact evict_puts recency (write.slot false)
  | forced absent full under lasting exhausted =>
    refine .evicted (rater?_ne_none_of_full full) ?_ ?_ rfl
    · rw [nextOut?, rater?, under]
      rfl
    · exact evict_puts recency (write.slot false)
  | passed => exact .stayed rfl (fun _ => rfl) rfl

theorem RevokeCase.ringStep (case : RevokeCase recency fingerprint sequence next lookup) :
    RingStep recency (.answered fingerprint sequence lookup) next := by
  cases case with
  | absent | stale | repeated => exact .stayed rfl (fun _ => rfl) rfl
  | @struck location slot found holds =>
    exact .stayed rfl (fun index => rater?_setSlot holds rfl) setSlot_evictionCursor

/-- **Every call does one of the three to the ring.** -/
theorem call_ringStep (recency : Recency) (asked : Call) :
    RingStep recency (recency.call asked).2 (recency.call asked).1 := by
  cases asked with
  | write feedback => exact (write_cases recency feedback.policy _ _ _ _).ringStep
  | revoke fingerprint sequence => exact (revoke_cases recency fingerprint sequence).ringStep

end Steps

/-! ### In step with the history -/

section Queues

/-- **The ring is in step with the history.** The first 24 writes that entered found free slots, the
later ones evicted the raters from the first on, and the ring shows those that are left. -/
structure Queued (history : List Reply) (recency : Recency) : Prop where
  rotation : Rotation (entered history) recency
  inserted_iff : ∀ number entrance, (entrances history)[number]? = some entrance →
    (entrance.placement = .ringInsert ↔ number < 24)
  evicted : evicted history = (entered history).take ((entered history).length - 24)

variable {history : List Reply} {recency next : Recency} {reply : Reply}

theorem queued_empty (windowStart : UInt64) : Queued [] (empty windowStart) where
  rotation := rotation_empty windowStart
  inserted_iff number entrance found := by simp [entrances] at found
  evicted := rfl

/-- The first free slot is the one under the cursor. -/
theorem Rotation.cursor_of_first {raters : List Fingerprint} {free : Fin 24}
    (rotation : Rotation raters recency)
    (first : recency.ring.findFinIdx? Option.isNone = some free) :
    raters.length < 24 ∧ free = recency.evictionCursor := by
  have isFree : recency.rater? (.ring free) = none :=
    rater?_eq_none.mpr (Option.isNone_iff_eq_none.mp (first_of_findFinIdx? first).1)
  have late : raters.length ≤ free.val :=
    Nat.le_of_not_lt fun early => (rotation.taken_iff free).mpr early isFree
  have room : raters.length < 24 := Nat.lt_of_le_of_lt late free.isLt
  have early : free.val ≤ raters.length := by
    by_contra later
    have before : (⟨raters.length, room⟩ : Fin 24) < free := Nat.lt_of_not_le later
    exact Nat.lt_irrefl _ ((rotation.taken_iff _).mp (rater?_ne_none_of_lt first before))
  refine ⟨room, ?_⟩
  rw [rotation.cursor]
  apply Fin.ext
  show free.val = raters.length % 24
  omega

/-- An entrance at the end of a history is an insertion exactly if the ring has room. -/
theorem Queued.inserted_iff_concat {entrance : Entrance} (queued : Queued history recency)
    (enters : reply.entrance? = some entrance)
    (fits : entrance.placement = .ringInsert ↔ (entered history).length < 24) :
    ∀ number other, (entrances (history ++ [reply]))[number]? = some other →
      (other.placement = .ringInsert ↔ number < 24) := by
  intro number other found
  rw [entrances_concat_of_some enters] at found
  by_cases before : number < (entrances history).length
  · rw [List.getElem?_append_left before] at found
    exact queued.inserted_iff number other found
  · have bound := (List.getElem?_eq_some_iff.mp found).1
    rw [List.length_append, List.length_singleton] at bound
    obtain rfl : number = (entrances history).length := by omega
    rw [List.getElem?_concat_length] at found
    obtain rfl := Option.some.inj found
    rw [length_entrances]
    exact fits

/-- **Every call keeps the ring in step with the history.** -/
theorem Queued.step (queued : Queued history recency) (step : RingStep recency reply next) :
    Queued (history ++ [reply]) next := by
  cases step with
  | stayed silent same cursor =>
    refine ⟨⟨?_, fun number low high => ?_⟩, ?_, ?_⟩
    · rw [entered, entrances_concat_of_none silent]
      exact cursor.trans queued.rotation.cursor
    · rw [entered, entrances_concat_of_none silent] at low high ⊢
      rw [same]
      exact queued.rotation.shows number low high
    · rw [entrances_concat_of_none silent]
      exact queued.inserted_iff
    · rw [Recency.evicted, entered, entrances_concat_of_none silent]
      exact queued.evicted
  | @inserted write free first =>
    have enters : (Reply.written write ⟨.ringInsert, none⟩).entrance? =
      some ⟨write.fingerprint, .ringInsert⟩ := rfl
    obtain ⟨room, rfl⟩ := queued.rotation.cursor_of_first first
    refine ⟨?_, queued.inserted_iff_concat enters ⟨fun _ => room, fun _ => rfl⟩, ?_⟩
    · have puts := insert_puts recency recency.evictionCursor (write.slot false)
      rw [entered_concat enters]
      exact queued.rotation.enter puts rfl
    · have none : (entered history).length - 24 = 0 := by omega
      have still : (entered history).length + 1 - 24 = 0 := by omega
      rw [evicted_concat_of_inserted enters rfl, queued.evicted, entered_concat enters,
        List.length_append, List.length_singleton, none, still, List.take_zero, List.take_zero]
  | @evicted write next rater full under puts advanced =>
    have enters : (Reply.written write ⟨.ringEvict rater, none⟩).entrance? =
      some ⟨write.fingerprint, .ringEvict rater⟩ := rfl
    have grown := queued.rotation.full_of_taken full
    refine ⟨?_, queued.inserted_iff_concat enters ?_, ?_⟩
    · rw [entered_concat enters]
      exact queued.rotation.enter puts advanced
    · constructor
      · rintro ⟨⟩
      · exact fun few => absurd grown (Nat.not_le_of_lt few)
    · have oldest := (queued.rotation.nextOut?_eq grown).symm.trans under
      have more : (entered history).length + 1 - 24 = (entered history).length - 24 + 1 := by omega
      rw [evicted_concat_of_evicted enters rfl, queued.evicted, entered_concat enters,
        List.length_append, List.length_singleton, more,
        List.take_append_of_le_length (by omega), List.take_add_one, oldest]
      rfl

end Queues

/-! ### After every run -/

section Main

/-- **First in, first out.** What a history and the memory that it leads to say of the ring. -/
structure FirstInFirstOut (history : List Reply) (recency : Recency) : Prop where
  /-- The first 24 writes that entered are those that found a free slot. -/
  inserted_iff : ∀ (number : Nat) (entrance : Entrance),
    (entrances history)[number]? = some entrance → (entrance.placement = .ringInsert ↔ number < 24)
  /-- An eviction reports the rater that entered with the number of the eviction. -/
  evicted_eq : ∀ (number : Nat) (rater : Fingerprint),
    (evicted history)[number]? = some rater → (entered history)[number]? = some rater
  /-- The ring has as many slots taken as writes entered, up to its capacity. -/
  ringSize_eq : recency.ringSize = min ringCapacity (entered history).length
  /-- No call makes the ring hold fewer raters. -/
  ringSize_le : ∀ asked, recency.ringSize ≤ (recency.call asked).1.ringSize
  /-- The next eviction, whichever write makes it, reports the rater under the cursor. -/
  nextOut : ∀ asked entrance rater, (recency.call asked).2.entrance? = some entrance →
    entrance.placement = .ringEvict rater → recency.nextOut? = some rater
  /-- A write over the same rater's slot, a write past the ring and a revocation do not change which
  rater is evicted next. -/
  nextOut_kept : ∀ asked, (recency.call asked).2.entrance? = none →
    (recency.call asked).1.nextOut? = recency.nextOut?

variable {recency next : Recency} {reply : Reply} {entrance : Entrance} {rater : Fingerprint}

theorem RingStep.nextOut (step : RingStep recency reply next)
    (enters : reply.entrance? = some entrance) (gave : entrance.placement = .ringEvict rater) :
    recency.nextOut? = some rater := by
  cases step with
  | stayed silent =>
    rw [silent] at enters
    cases enters
  | inserted first =>
    cases enters
    cases gave
  | evicted full under =>
    cases enters
    cases gave
    exact under

theorem RingStep.nextOut_kept (step : RingStep recency reply next)
    (silent : reply.entrance? = none) : next.nextOut? = recency.nextOut? := by
  cases step with
  | stayed _ same cursor => rw [nextOut?, nextOut?, cursor, same]
  | inserted | evicted => cases silent

/-- **Eviction is strictly first in, first out.** Take any run of writes and revocations, with any
raters, scores, times and policies, and number the writes that entered the ring and the evictions
from zero. The first 24 writes that entered found free slots, and the ring never loses a slot.
Eviction `number` reports the rater of the write that entered with that number. No other call has a
say in which rater is next. -/
theorem first_in_first_out (windowStart : UInt64) (calls : List Call) :
    FirstInFirstOut ((system windowStart).history calls) ((system windowStart).final calls) := by
  have everyRun : ∀ calls, Queued ((system windowStart).history calls)
      ((system windowStart).final calls) :=
    (system windowStart).invariant Queued (queued_empty windowStart)
      fun _ recency asked queued => queued.step (call_ringStep recency asked)
  have queued := everyRun calls
  have sized := queued.rotation.ringSize
  refine ⟨queued.inserted_iff, ?_, sized, ?_, ?_, ?_⟩
  · intro number rater found
    rw [queued.evicted] at found
    have bound := (List.getElem?_eq_some_iff.mp found).1
    rw [List.length_take] at bound
    rwa [List.getElem?_take_of_lt (by omega)] at found
  · intro asked
    have longer := (everyRun (calls ++ [asked])).rotation.ringSize
    rw [System.final_concat, System.history_concat] at longer
    have grows : (entered ((system windowStart).history calls)).length ≤
        (entered ((system windowStart).history calls ++
          [(((system windowStart).final calls).call asked).2])).length := by
      rw [← length_entrances, ← length_entrances, entrances, entrances, List.filterMap_append,
        List.length_append]
      exact Nat.le_add_right _ _
    show ((system windowStart).final calls).ringSize ≤
      (((system windowStart).final calls).call asked).1.ringSize
    rw [sized]
    refine Nat.le_trans ?_ (Nat.le_of_eq longer.symm)
    exact Nat.le_min.mpr ⟨Nat.min_le_left _ _, Nat.le_trans (Nat.min_le_right _ _) grows⟩
  · exact fun asked entrance rater enters gave =>
      (call_ringStep _ asked).nextOut enters gave
  · exact fun asked silent => (call_ringStep _ asked).nextOut_kept silent

end Main

end Recency

end Reputation
