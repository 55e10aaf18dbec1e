/-
**What a write and a revocation do to the remembered raters.**

A write does one of five things and a revocation one of four. What is proved of the memory of a
rater splits on `WriteCase` and `RevokeCase`, never on `write` or `revoke`; each case carries the
guards under which it is taken.

* `find?_eq_some`, `absent_of_find?`: the search finds a slot of the rater, and misses none.
* `write_cases`, `revoke_cases`: every write and every revocation is one of the cases.
* `Puts`, `Owns`: one place changes and the others stay; no other place holds the same rater.
* `rater?`: the rater at a place, which a write over the same rater's slot leaves alone.
* `WriteCase.puts`: a write puts its slot at one place, which its rater owns from then on.
* `WriteCase.distinct`, `RevokeCase.distinct`: no rater ever has two slots.
-/

import Reputation.Raters.Recency

namespace Reputation

/-- Where the write over a slot of the same rater is reported. -/
def Location.overwrite : Location → Placement
  | .ring _ => .ringOverwrite
  | .bypass _ => .bypassOverwrite

namespace Recency

variable {recency next : Recency} {policy : RingPolicy} {fingerprint : Fingerprint}
  {slot fresh : Slot} {location other : Location} {sequence : UInt64}

/-! ### Searching -/

section Searching

theorem first_of_findFinIdx? {Item : Type} {size : Nat} {items : Vector Item size}
    {wanted : Item → Bool} {index : Fin size} (found : items.findFinIdx? wanted = some index) :
    wanted (items.get index) = true ∧
      ∀ earlier < index, wanted (items.get earlier) ≠ true := by
  rcases items with ⟨items, rfl⟩
  rw [Vector.findFinIdx?_mk] at found
  obtain ⟨place, foundAt, rfl⟩ := Option.map_eq_some_iff.mp found
  exact Array.findFinIdx?_eq_some_iff.mp foundAt

theorem heldBy_iff {held : Option Slot} :
    heldBy fingerprint held = true ↔ ∃ slot, held = some slot ∧ slot.fingerprint = fingerprint := by
  cases held <;> simp [heldBy]

/-- **A place that is found holds a slot of the rater.** -/
theorem find?_eq_some (found : recency.find? fingerprint = some location) :
    ∃ slot, recency.slot? location = some slot ∧ slot.fingerprint = fingerprint := by
  unfold find? at found
  split at found
  · rename_i index inRing
    cases found
    exact heldBy_iff.mp (first_of_findFinIdx? inRing).1
  · obtain ⟨index, inBypass, rfl⟩ := Option.map_eq_some_iff.mp found
    exact heldBy_iff.mp (first_of_findFinIdx? inBypass).1

theorem fingerprint_of_find? (found : recency.find? fingerprint = some location)
    (holds : recency.slot? location = some slot) : slot.fingerprint = fingerprint := by
  obtain ⟨held, holdsHeld, same⟩ := find?_eq_some found
  obtain rfl : held = slot := Option.some.inj (holdsHeld.symm.trans holds)
  exact same

/-- **No place holds a slot of a rater who is not found.** -/
theorem absent_of_find? (absent : recency.find? fingerprint = none)
    (holds : recency.slot? location = some slot) : slot.fingerprint ≠ fingerprint := by
  unfold find? at absent
  split at absent
  · cases absent
  · rename_i outOfRing
    have outOfBypass := Option.map_eq_none_iff.mp absent
    rw [Vector.findFinIdx?_eq_none_iff] at outOfRing outOfBypass
    intro same
    cases location with
    | ring index =>
      exact outOfRing _ (Vector.getElem_mem index.isLt) (heldBy_iff.mpr ⟨slot, holds, same⟩)
    | bypass index =>
      exact outOfBypass _ (Vector.getElem_mem index.isLt) (heldBy_iff.mpr ⟨slot, holds, same⟩)

end Searching

/-! ### The cases of a write -/

section Writing

/-- What the write of a fresh slot can do. -/
inductive WriteCase (recency : Recency) (policy : RingPolicy) (fresh : Slot) :
    Recency → WriteOutcome → Prop
  /-- The rater is remembered: its slot is written over, cursors and window stay. -/
  | overwritten {location : Location} {previous : Slot}
      (found : recency.find? fresh.fingerprint = some location)
      (holds : recency.slot? location = some previous) :
      WriteCase recency policy fresh (recency.setSlot fresh location)
        ⟨location.overwrite, some previous⟩
  /-- The first free slot of the ring is taken. -/
  | inserted {free : Fin 24} (absent : recency.find? fresh.fingerprint = none)
      (first : recency.ring.findFinIdx? Option.isNone = some free) :
      WriteCase recency policy fresh (recency.insert free fresh) ⟨.ringInsert, none⟩
  /-- The window has lasted for the residency time, and a new one opens. -/
  | elapsed {given : Slot} (absent : recency.find? fresh.fingerprint = none)
      (full : recency.ring.findFinIdx? Option.isNone = none)
      (under : recency.slot? (.ring recency.evictionCursor) = some given)
      (lasted : recency.windowElapsed policy fresh.writtenAt = true) :
      WriteCase recency policy fresh
        { recency.evict fresh with windowStart := fresh.writtenAt, windowCount := 0 }
        ⟨.ringEvict given.fingerprint, none⟩
  /-- The window has let its number of writes pass by, and goes on. -/
  | forced {given : Slot} (absent : recency.find? fresh.fingerprint = none)
      (full : recency.ring.findFinIdx? Option.isNone = none)
      (under : recency.slot? (.ring recency.evictionCursor) = some given)
      (lasting : recency.windowElapsed policy fresh.writtenAt = false)
      (exhausted : recency.bypassExhausted policy = true) :
      WriteCase recency policy fresh (recency.evict fresh) ⟨.ringEvict given.fingerprint, none⟩
  /-- The full ring is passed by. -/
  | passed (absent : recency.find? fresh.fingerprint = none)
      (full : recency.ring.findFinIdx? Option.isNone = none)
      (lasting : recency.windowElapsed policy fresh.writtenAt = false)
      (room : recency.bypassExhausted policy = false) :
      WriteCase recency policy fresh (recency.passBy fresh) ⟨.bypass, none⟩

theorem taken_of_full (full : recency.ring.findFinIdx? Option.isNone = none) (index : Fin 24) :
    ∃ slot, recency.slot? (.ring index) = some slot := by
  have taken := Vector.findFinIdx?_eq_none_iff.mp full _ (Vector.getElem_mem index.isLt)
  exact Option.ne_none_iff_exists'.mp fun isFree => taken (Option.isNone_iff_eq_none.mpr isFree)

/-- **Every write is one of the five cases.** -/
theorem write_cases (recency : Recency) (policy : RingPolicy) (fingerprint : Fingerprint)
    (score : UInt8) (sequence now : UInt64) :
    WriteCase recency policy ⟨fingerprint, score, false, sequence, now⟩
      (recency.write policy fingerprint score sequence now).1
      (recency.write policy fingerprint score sequence now).2 := by
  unfold write
  split
  · rename_i location found
    obtain ⟨previous, holds, -⟩ := find?_eq_some found
    have overwritten : WriteCase recency policy ⟨fingerprint, score, false, sequence, now⟩ _ _ :=
      .overwritten found holds
    rw [holds]
    cases location <;> exact overwritten
  · rename_i absent
    split
    · rename_i free first
      exact .inserted absent first
    · rename_i full
      obtain ⟨given, under⟩ := taken_of_full full recency.evictionCursor
      rw [show recency.ring[recency.evictionCursor] = some given from under]
      split
      · rename_i lasted
        exact .elapsed absent full under lasted
      · rename_i lasting
        split
        · rename_i exhausted
          exact .forced absent full under (eq_false_of_ne_true lasting) exhausted
        · rename_i room
          exact .passed absent full (eq_false_of_ne_true lasting)
            (eq_false_of_ne_true room)

end Writing

/-! ### The cases of a revocation -/

section Revoking

/-- What the revocation of a feedback can do. -/
inductive RevokeCase (recency : Recency) (fingerprint : Fingerprint) (sequence : UInt64) :
    Recency → RevokeLookup → Prop
  /-- The rater is not remembered. -/
  | absent (absent : recency.find? fingerprint = none) :
      RevokeCase recency fingerprint sequence recency .notFound
  /-- The rater's slot holds another write. -/
  | stale {location : Location} {slot : Slot} (found : recency.find? fingerprint = some location)
      (holds : recency.slot? location = some slot) (differs : slot.sequence ≠ sequence) :
      RevokeCase recency fingerprint sequence recency .notFound
  /-- The write was revoked before. -/
  | repeated {location : Location} {slot : Slot}
      (found : recency.find? fingerprint = some location)
      (holds : recency.slot? location = some slot) (same : slot.sequence = sequence)
      (marked : slot.revoked = true) :
      RevokeCase recency fingerprint sequence recency .alreadyRevoked
  /-- The write is revoked now. -/
  | struck {location : Location} {slot : Slot} (found : recency.find? fingerprint = some location)
      (holds : recency.slot? location = some slot) (same : slot.sequence = sequence)
      (unmarked : slot.revoked = false) :
      RevokeCase recency fingerprint sequence
        (recency.setSlot { slot with revoked := true } location) (.revoked slot.score location)

/-- **Every revocation is one of the four cases.** -/
theorem revoke_cases (recency : Recency) (fingerprint : Fingerprint) (sequence : UInt64) :
    RevokeCase recency fingerprint sequence (recency.revoke fingerprint sequence).1
      (recency.revoke fingerprint sequence).2 := by
  unfold revoke
  split
  · rename_i absent
    exact .absent absent
  · rename_i location found
    obtain ⟨slot, holds, -⟩ := find?_eq_some found
    rw [holds]
    dsimp only
    split
    · rename_i differs
      exact .stale found holds differs
    · rename_i same
      split
      · rename_i marked
        exact .repeated found holds (Decidable.not_not.mp same) marked
      · rename_i unmarked
        exact .struck found holds (Decidable.not_not.mp same) (eq_false_of_ne_true unmarked)

end Revoking

/-! ### What stays -/

section Staying

/-- A slot is put at one place and the others stay. -/
def Puts (recency : Recency) (fresh : Slot) (location : Location) (next : Recency) : Prop :=
  ∀ other, next.slot? other = if other = location then some fresh else recency.slot? other

/-- No other place holds a slot of the rater. -/
def Owns (recency : Recency) (fingerprint : Fingerprint) (location : Location) : Prop :=
  ∀ other slot, recency.slot? other = some slot → slot.fingerprint = fingerprint → other = location

/-- Every rater owns the place of its slot. -/
def Distinct (recency : Recency) : Prop :=
  ∀ location slot, recency.slot? location = some slot → recency.Owns slot.fingerprint location

theorem slot?_empty (windowStart : UInt64) (location : Location) :
    (empty windowStart).slot? location = none := by
  cases location with
  | ring index | bypass index => exact Vector.getElem_replicate index.isLt

theorem distinct_empty (windowStart : UInt64) : (empty windowStart).Distinct := by
  intro location slot holds
  rw [slot?_empty] at holds
  cases holds

theorem getElem_set_fin {size : Nat} (slots : Vector (Option Slot) size) (index : Fin size)
    {other : Fin size} (inside : other.val < size) :
    (slots.set index.val (some fresh) index.isLt)[other.val] =
      if other = index then some fresh else slots[other.val] := by
  rw [Vector.getElem_set]
  simp only [Fin.ext_iff, eq_comm]

theorem setSlot_puts (recency : Recency) (fresh : Slot) (location : Location) :
    Puts recency fresh location (recency.setSlot fresh location) := by
  intro other
  cases location <;> cases other <;>
    simp only [setSlot, slot?, Fin.getElem_fin, getElem_set_fin, Location.ring.injEq,
      Location.bypass.injEq, reduceCtorEq, if_false]

@[simp] theorem setSlot_evictionCursor :
    (recency.setSlot fresh location).evictionCursor = recency.evictionCursor := by
  cases location <;> rfl

@[simp] theorem setSlot_bypassCursor :
    (recency.setSlot fresh location).bypassCursor = recency.bypassCursor := by
  cases location <;> rfl

@[simp] theorem setSlot_windowStart :
    (recency.setSlot fresh location).windowStart = recency.windowStart := by
  cases location <;> rfl

@[simp] theorem setSlot_windowCount :
    (recency.setSlot fresh location).windowCount = recency.windowCount := by
  cases location <;> rfl

theorem insert_puts (recency : Recency) (free : Fin 24) (fresh : Slot) :
    Puts recency fresh (.ring free) (recency.insert free fresh) :=
  setSlot_puts recency fresh (.ring free)

theorem evict_puts (recency : Recency) (fresh : Slot) :
    Puts recency fresh (.ring recency.evictionCursor) (recency.evict fresh) :=
  setSlot_puts recency fresh (.ring recency.evictionCursor)

theorem passBy_puts (recency : Recency) (fresh : Slot) :
    Puts recency fresh (.bypass recency.bypassCursor) (recency.passBy fresh) :=
  setSlot_puts recency fresh (.bypass recency.bypassCursor)

theorem owns_of_absent (absent : recency.find? fingerprint = none) :
    recency.Owns fingerprint location :=
  fun _ _ holds same => absurd same (absent_of_find? absent holds)

theorem Distinct.owns (distinct : recency.Distinct)
    (found : recency.find? fingerprint = some location) : recency.Owns fingerprint location := by
  obtain ⟨slot, holds, rfl⟩ := find?_eq_some found
  exact distinct location slot holds

/-- **A write puts its slot at one place, which no other slot of the rater contests if the raters
are distinct.** -/
theorem WriteCase.puts {outcome : WriteOutcome}
    (case : WriteCase recency policy fresh next outcome) :
    ∃ location, Puts recency fresh location next ∧
      (recency.Distinct → recency.Owns fresh.fingerprint location) := by
  cases case with
  | overwritten found =>
    exact ⟨_, setSlot_puts recency fresh _, fun distinct => distinct.owns found⟩
  | @inserted free absent =>
    exact ⟨.ring free, insert_puts recency free fresh, fun _ => owns_of_absent absent⟩
  | elapsed absent | forced absent =>
    exact ⟨_, evict_puts recency fresh, fun _ => owns_of_absent absent⟩
  | passed absent =>
    exact ⟨_, passBy_puts recency fresh, fun _ => owns_of_absent absent⟩

/-- The rater in the slot at a place. -/
def rater? (recency : Recency) (location : Location) : Option Fingerprint :=
  (recency.slot? location).map (·.fingerprint)

theorem rater?_eq_none : recency.rater? location = none ↔ recency.slot? location = none :=
  Option.map_eq_none_iff

theorem Puts.rater? (puts : Puts recency fresh location next) (other : Location) :
    next.rater? other =
      if other = location then some fresh.fingerprint else recency.rater? other := by
  unfold Recency.rater?
  rw [puts other]
  split <;> rfl

/-- A slot that is written over by one of the same rater shows the same rater. -/
theorem rater?_setSlot (holds : recency.slot? location = some slot)
    (same : fresh.fingerprint = slot.fingerprint) :
    (recency.setSlot fresh location).rater? other = recency.rater? other := by
  rw [(setSlot_puts recency fresh location).rater? other]
  split
  · rename_i here
    rw [here, rater?, holds, Option.map_some, same]
  · rfl

/-- What is held after a slot was put: the slot itself, or a slot of another rater as it was. -/
theorem Puts.held (puts : Puts recency fresh location next)
    (owns : recency.Owns fresh.fingerprint location) (holds : next.slot? other = some slot) :
    (other = location ∧ slot = fresh) ∨
      (other ≠ location ∧ recency.slot? other = some slot ∧
        slot.fingerprint ≠ fresh.fingerprint) := by
  rw [puts other] at holds
  split at holds
  · rename_i here
    exact .inl ⟨here, (Option.some.inj holds).symm⟩
  · rename_i elsewhere
    exact .inr ⟨elsewhere, holds, fun same => elsewhere (owns other slot holds same)⟩

/-- **Raters stay distinct where a slot is put at a place that its rater owns.** -/
theorem Puts.distinct (puts : Puts recency fresh location next)
    (owns : recency.Owns fresh.fingerprint location) (distinct : recency.Distinct) :
    next.Distinct := by
  intro first slot holdsFirst second other holdsSecond same
  rcases puts.held owns holdsFirst with ⟨rfl, rfl⟩ | ⟨-, wasFirst, differs⟩
  · rcases puts.held owns holdsSecond with ⟨rfl, -⟩ | ⟨-, -, differs⟩
    · rfl
    · exact absurd same differs
  · rcases puts.held owns holdsSecond with ⟨-, rfl⟩ | ⟨-, wasSecond, -⟩
    · exact absurd same.symm differs
    · exact distinct first slot wasFirst second other wasSecond same

/-- **A write keeps the raters distinct.** -/
theorem WriteCase.distinct {outcome : WriteOutcome}
    (case : WriteCase recency policy fresh next outcome) (distinct : recency.Distinct) :
    next.Distinct := by
  obtain ⟨location, puts, owned⟩ := case.puts
  exact puts.distinct (owned distinct) distinct

/-- **A revocation keeps the raters distinct.** -/
theorem RevokeCase.distinct {lookup : RevokeLookup}
    (case : RevokeCase recency fingerprint sequence next lookup) (distinct : recency.Distinct) :
    next.Distinct := by
  cases case with
  | absent | stale | repeated => exact distinct
  | @struck location slot found holds =>
    exact (setSlot_puts recency { slot with revoked := true } location).distinct
      (distinct location slot holds) distinct

end Staying

end Recency

end Reputation
