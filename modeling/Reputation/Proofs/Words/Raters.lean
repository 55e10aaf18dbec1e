/-
**Raters are counted and remembered within words and arrays.**

* `Cardinality.proposalChecked`, `observeChecked`: a fingerprint picks a register and proposes a
  rank. Mixing its bits is meant to wrap around; its shifts are not.
* `Cardinality.estimateChecked`: the estimate of the number of raters.
* `Recency.writeChecked`, `revokeChecked`: slots are read and put at places that are in the ring and
  in the bypass list, and so are the cursors that are moved on.
* `Recency.liveMeanChecked`: the scores that count are gathered in an array of 34 places.

Each is the function of which it carries the name, word by word, and each comes with a theorem that
there is no fault.
-/

import Mathlib.Algebra.Ring.Nat
import Reputation.Proofs.Words.Numeric
import Reputation.Raters.Cardinality
import Reputation.Raters.Recency

namespace Reputation

open Checked

/-! ### Registers -/

namespace Cardinality

/-- A word shifted towards its low bits. -/
def shiftChecked (word : UInt64) (amount : Nat) : Checked UInt64 := do
  let shifted ← shr 64 word.toNat amount
  return UInt64.ofNat shifted

theorem shiftChecked_eq {amount : Nat} (near : amount < 64) (word : UInt64) :
    shiftChecked word amount = .ok (word >>> UInt64.ofNat amount) := by
  have small : amount % 2 ^ 64 = amount := Nat.mod_eq_of_lt (by omega)
  have here : amount % 64 = amount := Nat.mod_eq_of_lt near
  have same : UInt64.ofNat (word.toNat / 2 ^ amount) = word >>> UInt64.ofNat amount := by
    apply UInt64.toNat.inj
    rw [UInt64.toNat_shiftRight, UInt64.toNat_ofNat', UInt64.toNat_ofNat', small, here,
      Nat.shiftRight_eq_div_pow]
    exact Nat.mod_eq_of_lt (Nat.lt_of_le_of_lt (Nat.div_le_self _ _) word.toNat_lt)
  rw [shiftChecked, shr_eq near, ok_bind, same]
  rfl

/-- Spreads the bits of a word over the whole word. -/
def scrambleChecked (word : UInt64) : Checked UInt64 := do
  let first := word + 0x9e3779b97f4a7c15
  let high ← shiftChecked first 30
  let second := (first ^^^ high) * 0xbf58476d1ce4e5b9
  let high ← shiftChecked second 27
  let third := (second ^^^ high) * 0x94d049bb133111eb
  let high ← shiftChecked third 31
  return third ^^^ high

theorem scrambleChecked_eq (word : UInt64) : scrambleChecked word = .ok (scramble word) := by
  unfold scrambleChecked
  simp only [shiftChecked_eq (show 30 < 64 by decide), shiftChecked_eq (show 27 < 64 by decide),
    shiftChecked_eq (show 31 < 64 by decide), ok_bind]
  rfl

/-- The place of the register of a fingerprint, and the rank that is proposed to it. -/
def proposalChecked (fingerprint : Fingerprint) : Checked (Nat × Fin 16) := do
  let word ← scrambleChecked fingerprint.value
  let rest ← shr 64 word.toNat 8
  let unused ← sub 64 56
  let run ← sub (leadingZerosIn 64 rest) unused
  let next ← add 32 run 1
  let byte ← narrow 8 (min next rankMax)
  let rank ← narrow 4 byte
  return (word.toNat &&& 0xff, lowRank rank)

theorem leadingZerosIn_sub {rest : Nat} (below : rest < 2 ^ 56) :
    8 ≤ leadingZerosIn 64 rest ∧ leadingZerosIn 64 rest - 8 = leadingZeros rest := by
  unfold leadingZerosIn leadingZeros
  split
  · exact ⟨by decide, rfl⟩
  · rename_i some
    have high : rest.log2 < 56 := (Nat.log2_lt some).mpr below
    omega

theorem proposalChecked_eq (fingerprint : Fingerprint) :
    proposalChecked fingerprint = .ok ((registerOf fingerprint).val, rankOf fingerprint) := by
  have word := (scramble fingerprint.value).toNat_lt
  obtain ⟨wide, run⟩ := leadingZerosIn_sub
    (show (scramble fingerprint.value).toNat / 2 ^ 8 < 2 ^ 56 by omega)
  have short : leadingZeros ((scramble fingerprint.value).toNat / 2 ^ 8) ≤ 56 := by
    unfold leadingZeros
    split <;> omega
  rw [proposalChecked, scrambleChecked_eq, ok_bind, shr_eq (by decide), ok_bind,
    sub_eq (by decide), ok_bind, sub_eq wide, ok_bind, run, add_eq (by omega), ok_bind,
    narrow_min (by decide), ok_bind, narrow_min (by decide), ok_bind,
    Nat.and_two_pow_sub_one_eq_mod _ 8]
  rfl

/-- Raises a register to a rank, and tells whether that was needed. -/
def raiseChecked (cardinality : Cardinality) (register : Nat) (rank : Fin 16) :
    Checked (Cardinality × Bool) := do
  let current ← item cardinality.registers register
  if current < rank then
    let registers ← put cardinality.registers register rank
    return (⟨registers⟩, true)
  else return (cardinality, false)

theorem raiseChecked_eq (cardinality : Cardinality) (register : Fin 256) (rank : Fin 16) :
    cardinality.raiseChecked register rank =
      .ok (if cardinality.registers.get register < rank then
        (⟨cardinality.registers.set register.val rank register.isLt⟩, true)
        else (cardinality, false)) := by
  rw [raiseChecked, item_fin, ok_bind]
  show (if cardinality.registers.get register < rank then _ else _) = _
  split
  · rw [put_fin]
    rfl
  · rfl

/-- Observes a fingerprint, and tells whether it raised its register. -/
def observeChecked (cardinality : Cardinality) (fingerprint : Fingerprint) :
    Checked (Cardinality × Bool) := do
  let proposal ← proposalChecked fingerprint
  cardinality.raiseChecked proposal.1 proposal.2

theorem observeChecked_eq (cardinality : Cardinality) (fingerprint : Fingerprint) :
    cardinality.observeChecked fingerprint =
      .ok (cardinality.observe fingerprint, cardinality.isRaisedBy fingerprint) := by
  rw [observeChecked, proposalChecked_eq, ok_bind, raiseChecked_eq, observe]
  cases raised : cardinality.isRaisedBy fingerprint with
  | true =>
    have above : cardinality.registers.get (registerOf fingerprint) < rankOf fingerprint :=
      of_decide_eq_true raised
    rw [if_pos above, if_pos rfl]
  | false =>
    have notAbove : ¬cardinality.registers.get (registerOf fingerprint) < rankOf fingerprint :=
      of_decide_eq_false raised
    rw [if_neg notAbove, if_neg Bool.false_ne_true]

/-! ### The estimate -/

/-- Counts a register if it is empty. -/
def countZeroChecked (zeros : Nat) (rank : Fin 16) : Checked Nat :=
  if rank.val = 0 then add 64 zeros 1 else return zeros

theorem countZeroChecked_eq {zeros : Nat} (room : zeros + 1 < 2 ^ 64) (rank : Fin 16) :
    countZeroChecked zeros rank = .ok (zeros + if rank.val = 0 then 1 else 0) := by
  unfold countZeroChecked
  split
  · exact add_eq room
  · rfl

/-- Adds the weight of a register to a sum, and counts the register if it is empty. -/
def weighChecked (sums : Nat × Nat) (rank : Fin 16) : Checked (Nat × Nat) := do
  let distance ← sub rankMax (min rank.val rankMax)
  let weight ← shl 64 1 distance
  let sum ← add 64 sums.1 weight
  let zeros ← countZeroChecked sums.2 rank
  return (sum, zeros)

theorem foldlM_weighChecked {ranks : List (Fin 16)} {sum zeros : Nat}
    (room : sum + ranks.length * 2 ^ 15 < 2 ^ 64) (few : zeros + ranks.length < 2 ^ 64) :
    ranks.foldlM weighChecked (sum, zeros) =
      .ok (sum + total (ranks.map fun rank => 2 ^ (rankMax - rank.val)),
        zeros + ranks.countP (·.val = 0)) := by
  induction ranks generalizing sum zeros with
  | nil => rfl
  | cons rank rest ih =>
    have low : rank.val ≤ rankMax := Nat.le_of_lt_succ rank.isLt
    have near : rankMax - rank.val ≤ 15 := Nat.sub_le _ _
    have weight : 2 ^ (rankMax - rank.val) ≤ 2 ^ 15 := Nat.pow_le_pow_right (by decide) near
    rw [List.length_cons] at room few
    have first : weighChecked (sum, zeros) rank =
        .ok (sum + 2 ^ (rankMax - rank.val), zeros + if rank.val = 0 then 1 else 0) := by
      rw [weighChecked, Nat.min_eq_left low, sub_eq low, ok_bind, shl_eq (by omega) (by omega),
        ok_bind, Nat.one_mul, add_eq (show sum + _ < _ by omega), ok_bind,
        countZeroChecked_eq (show zeros + 1 < _ by omega)]
      rfl
    rw [List.foldlM_cons, first, ok_bind, ih (by omega) (by split <;> omega), List.map_cons, total,
      List.countP_cons, Nat.add_assoc, Nat.add_assoc, Nat.add_comm (List.countP _ rest)]
    simp only [decide_eq_true_eq]

/-- The number of raters that leaves `zeros` registers empty on average. -/
def linearCountChecked (zeros : Nat) : Checked Nat := do
  let all ← log2FixedChecked registerCount
  let empty ← log2FixedChecked zeros
  let product ← mul 64 registerCount (all - empty)
  let scaled ← mul 64 product naturalLogOfTwo
  let bits ← mul 32 2 logFractionBits
  let one ← shl 64 1 bits
  divHalfUpChecked scaled one

theorem linearCountChecked_eq {zeros : Nat} (word : zeros < 2 ^ 64) :
    linearCountChecked zeros = .ok (linearCount zeros) := by
  have all : log2Fixed registerCount < 2 ^ 22 := log2Fixed_lt (by decide)
  have product : registerCount * (log2Fixed registerCount - log2Fixed zeros) ≤ 256 * 2 ^ 22 :=
    Nat.mul_le_mul_left _ (by omega)
  have scaled : registerCount * (log2Fixed registerCount - log2Fixed zeros) * naturalLogOfTwo ≤
      256 * 2 ^ 22 * 45426 := Nat.mul_le_mul_right _ product
  rw [linearCountChecked, log2FixedChecked_eq (by decide), ok_bind, log2FixedChecked_eq word,
    ok_bind, mul_eq (by omega), ok_bind, mul_eq (by omega), ok_bind, mul_eq (by decide), ok_bind,
    shl_eq (by decide) (by decide), ok_bind, divHalfUpChecked_eq (by omega), Nat.one_mul]
  rfl

/-- What the estimate says before it is cut off. -/
def countChecked (harmonic zeros : Nat) : Checked Nat :=
  if harmonic ≤ smallRange ∧ 0 < zeros then linearCountChecked zeros else return harmonic

theorem countChecked_eq {zeros : Nat} (word : zeros < 2 ^ 64) (harmonic : Nat) :
    countChecked harmonic zeros =
      .ok (if harmonic ≤ smallRange ∧ 0 < zeros then linearCount zeros else harmonic) := by
  unfold countChecked
  split
  · exact linearCountChecked_eq word
  · rfl

/-- The estimated number of distinct raters. -/
def estimateChecked (cardinality : Cardinality) : Checked UInt32 := do
  let sums ← cardinality.registers.toList.foldlM weighChecked (0, 0)
  let scaled ← shl 64 meanScale rankMax
  let harmonic ← divHalfUpChecked scaled sums.1
  let count ← countChecked harmonic sums.2
  let estimate ← narrow 32 (min count estimateMax)
  return UInt32.ofNat estimate

/-- **The estimate has no fault**, whatever the registers hold. -/
theorem estimateChecked_eq (cardinality : Cardinality) :
    cardinality.estimateChecked = .ok cardinality.estimate := by
  have weighed : cardinality.registers.toList.foldlM weighChecked (0, 0) =
      .ok (total (cardinality.registers.toList.map fun rank => 2 ^ (rankMax - rank.val)),
        cardinality.zeros) := by
    rw [foldlM_weighChecked (by rw [Vector.length_toList]; decide)
      (by rw [Vector.length_toList]; decide), Nat.zero_add, Nat.zero_add]
    rfl
  have zeros : cardinality.zeros ≤ 256 := by
    have counted := List.countP_le_length (p := fun rank : Fin 16 => decide (rank.val = 0))
      (l := cardinality.registers.toList)
    rwa [Vector.length_toList] at counted
  rw [estimateChecked, weighed, ok_bind, shl_eq (by decide) (by decide), ok_bind,
    divHalfUpChecked_eq (by decide), ok_bind, countChecked_eq (show cardinality.zeros < _ by omega),
    ok_bind, narrow_min (by decide)]
  rfl

end Cardinality

/-! ### Recent raters -/

namespace Recency

variable {recency : Recency}

/-- The place after another one, the first after the last. -/
def nextChecked (capacity index : Nat) : Checked (Fin capacity) := do
  let next ← add 64 index 1
  let wrapped ← rem next capacity
  let byte ← narrow 8 wrapped
  place capacity byte

theorem nextChecked_eq {capacity : Nat} [NeZero capacity] (few : capacity ≤ 256)
    (index : Fin capacity) : nextChecked capacity index = .ok (index + 1) := by
  have positive : 0 < capacity := Fin.pos index
  have inside := index.isLt
  have wrapped : (index.val + 1) % capacity < capacity := Nat.mod_lt _ positive
  have same : (⟨(index.val + 1) % capacity, wrapped⟩ : Fin capacity) = index + 1 :=
    Fin.ext (Nat.add_mod_mod _ _ _).symm
  rw [nextChecked, add_eq (by omega), ok_bind, rem_eq positive, ok_bind, narrow_eq (by omega),
    ok_bind, place_eq wrapped, same]

/-- What is held at a place. -/
def slotChecked (recency : Recency) : Location → Checked (Option Slot)
  | .ring index => item recency.ring index
  | .bypass index => item recency.bypass index

theorem slotChecked_eq (recency : Recency) (location : Location) :
    recency.slotChecked location = .ok (recency.slot? location) := by
  cases location <;> exact item_fin _ _

/-- Puts a slot at a place. -/
def setSlotChecked (recency : Recency) (slot : Slot) : Location → Checked Recency
  | .ring index => do
    let ring ← put recency.ring index (some slot)
    return { recency with ring }
  | .bypass index => do
    let bypass ← put recency.bypass index (some slot)
    return { recency with bypass }

theorem setSlotChecked_eq (recency : Recency) (slot : Slot) (location : Location) :
    recency.setSlotChecked slot location = .ok (recency.setSlot slot location) := by
  cases location <;> rw [setSlotChecked, put_fin] <;> rfl

/-- Writes over the slot of a rater who is remembered. -/
def overwriteChecked (recency : Recency) (fresh : Slot) (location : Location) :
    Checked (Recency × WriteOutcome) := do
  let previous ← recency.slotChecked location
  let written ← recency.setSlotChecked fresh location
  let placement := match location with
    | .ring _ => Placement.ringOverwrite
    | .bypass _ => Placement.bypassOverwrite
  return (written, ⟨placement, previous⟩)

/-- Writes into a free slot of the ring. -/
def insertChecked (recency : Recency) (free : Fin 24) (fresh : Slot) : Checked Recency := do
  let ring ← put recency.ring free (some fresh)
  let evictionCursor ← nextChecked 24 free
  return { recency with ring, evictionCursor }

theorem insertChecked_eq (recency : Recency) (free : Fin 24) (fresh : Slot) :
    recency.insertChecked free fresh = .ok (recency.insert free fresh) := by
  rw [insertChecked, put_fin, ok_bind, nextChecked_eq (by decide)]
  rfl

/-- Writes over the slot under the eviction cursor. -/
def evictChecked (recency : Recency) (fresh : Slot) : Checked Recency := do
  let ring ← put recency.ring recency.evictionCursor (some fresh)
  let evictionCursor ← nextChecked 24 recency.evictionCursor
  return { recency with ring, evictionCursor }

theorem evictChecked_eq (recency : Recency) (fresh : Slot) :
    recency.evictChecked fresh = .ok (recency.evict fresh) := by
  rw [evictChecked, put_fin, ok_bind, nextChecked_eq (by decide)]
  rfl

/-- Writes past the ring. The count of such writes stops at the largest byte. -/
def passByChecked (recency : Recency) (fresh : Slot) : Checked Recency := do
  let bypass ← put recency.bypass recency.bypassCursor (some fresh)
  let bypassCursor ← nextChecked 10 recency.bypassCursor
  return { recency with
    bypass
    bypassCursor
    windowCount := UInt8.ofNat (saturate 8 (recency.windowCount.toNat + 1)) }

theorem passByChecked_eq (recency : Recency) (fresh : Slot) :
    recency.passByChecked fresh = .ok (recency.passBy fresh) := by
  rw [passByChecked, put_fin, ok_bind, nextChecked_eq (by decide)]
  rfl

/-- Records a feedback of a rater who is not remembered while the ring is full. The time since the
window was opened stops at zero. -/
def displaceChecked (recency : Recency) (policy : RingPolicy) (fresh : Slot) (now : UInt64) :
    Checked (Recency × WriteOutcome) :=
  if recency.windowElapsed policy now || recency.bypassExhausted policy then do
    let held ← item recency.ring recency.evictionCursor
    let evicted ← recency.evictChecked fresh
    let outcome := ⟨.ringEvict (held.elim fresh.fingerprint (·.fingerprint)), none⟩
    if recency.windowElapsed policy now then
      return ({ evicted with windowStart := now, windowCount := 0 }, outcome)
    else return (evicted, outcome)
  else do
    let passed ← recency.passByChecked fresh
    return (passed, ⟨.bypass, none⟩)

/-- Records a feedback that was not revoked yet. -/
def writeChecked (recency : Recency) (policy : RingPolicy) (fingerprint : Fingerprint)
    (score : UInt8) (sequence now : UInt64) : Checked (Recency × WriteOutcome) :=
  let fresh : Slot := ⟨fingerprint, score, false, sequence, now⟩
  match recency.find? fingerprint with
  | some location => recency.overwriteChecked fresh location
  | none =>
    match recency.ring.findFinIdx? Option.isNone with
    | some free => do
      let inserted ← recency.insertChecked free fresh
      return (inserted, ⟨.ringInsert, none⟩)
    | none => recency.displaceChecked policy fresh now

/-- **Every place that a write reads or fills is there**, and the cursors stay in their lists. -/
theorem writeChecked_eq (recency : Recency) (policy : RingPolicy) (fingerprint : Fingerprint)
    (score : UInt8) (sequence now : UInt64) :
    recency.writeChecked policy fingerprint score sequence now =
      .ok (recency.write policy fingerprint score sequence now) := by
  unfold writeChecked write
  cases recency.find? fingerprint with
  | some location =>
    show recency.overwriteChecked _ location = _
    unfold overwriteChecked
    rw [slotChecked_eq, ok_bind, setSlotChecked_eq, ok_bind]
    rfl
  | none =>
    cases recency.ring.findFinIdx? Option.isNone with
    | some free =>
      show (recency.insertChecked free _ >>= _) = _
      rw [insertChecked_eq]
      rfl
    | none =>
      show recency.displaceChecked policy _ now = _
      unfold displaceChecked
      rw [item_fin, evictChecked_eq, passByChecked_eq]
      cases recency.windowElapsed policy now <;> cases recency.bypassExhausted policy <;> rfl

/-- Marks a feedback as revoked, provided that the rater's slot still holds it. -/
def revokeChecked (recency : Recency) (fingerprint : Fingerprint) (sequence : UInt64) :
    Checked (Recency × RevokeLookup) :=
  match recency.find? fingerprint with
  | none => return (recency, .notFound)
  | some location => do
    let held ← recency.slotChecked location
    match held with
    | none => return (recency, .notFound)
    | some slot =>
      if slot.sequence ≠ sequence then return (recency, .notFound)
      else if slot.revoked then return (recency, .alreadyRevoked)
      else
        let marked ← recency.setSlotChecked { slot with revoked := true } location
        return (marked, .revoked slot.score location)

theorem revokeChecked_eq (recency : Recency) (fingerprint : Fingerprint) (sequence : UInt64) :
    recency.revokeChecked fingerprint sequence = .ok (recency.revoke fingerprint sequence) := by
  unfold revokeChecked revoke
  cases recency.find? fingerprint with
  | none => rfl
  | some location =>
    simp only [slotChecked_eq, ok_bind]
    cases recency.slot? location with
    | none => rfl
    | some slot =>
      simp only [setSlotChecked_eq, ok_bind]
      split
      · rfl
      · split
        · rfl
        · rfl

/-! ### The mean of the remembered scores -/

/-- Sets the score of a slot after those that were gathered, unless the slot is revoked. -/
def gatherChecked (gathered : Vector UInt8 34 × Nat) (slot : Slot) :
    Checked (Vector UInt8 34 × Nat) :=
  if slot.revoked then return gathered
  else do
    let scores ← put gathered.1 gathered.2 slot.score
    let count ← add 64 gathered.2 1
    return (scores, count)

/-- The mean of the scores that are remembered and not revoked. -/
def liveMeanChecked (recency : Recency) : Checked (Option UInt8) := do
  let gathered ← recency.slots.foldlM gatherChecked (Vector.replicate 34 0, 0)
  let live ← front gathered.1 gathered.2
  meanHalfUpChecked live

/-- The scores of the slots that are not revoked. -/
def liveScores (slots : List Slot) : List UInt8 := (slots.filter (!·.revoked)).map (·.score)

theorem take_put {size : Nat} {items : Vector UInt8 size} {index : Nat} (inside : index < size)
    (value : UInt8) :
    (items.set index value).toList.take (index + 1) = items.toList.take index ++ [value] := by
  have place : index < items.toList.length := by rwa [Vector.length_toList]
  have before : (items.toList.take index).length = index := List.length_take_of_le (Nat.le_of_lt place)
  rw [Vector.toList_set, List.set_eq_take_append_cons_drop, if_pos place, List.take_append, before,
    Nat.add_sub_cancel_left, List.take_of_length_le (by omega)]
  rfl

/-- **There is a place for every score.** What was gathered stays in front, and the scores of the
slots follow it. -/
theorem foldlM_gatherChecked {slots : List Slot} {scores : Vector UInt8 34} {count : Nat}
    (room : count + slots.length ≤ 34) :
    ∃ gathered, slots.foldlM gatherChecked (scores, count) = .ok gathered ∧
      gathered.2 ≤ 34 ∧
      gathered.1.toList.take gathered.2 = scores.toList.take count ++ liveScores slots := by
  induction slots generalizing scores count with
  | nil => exact ⟨_, rfl, room, (List.append_nil _).symm⟩
  | cons slot rest ih =>
    rw [List.length_cons] at room
    rw [List.foldlM_cons]
    cases revoked : slot.revoked with
    | true =>
      have kept : gatherChecked (scores, count) slot = .ok (scores, count) := if_pos revoked
      have live : liveScores (slot :: rest) = liveScores rest := by
        rw [liveScores, List.filter_cons_of_neg (by rw [revoked]; decide), liveScores]
      rw [kept, ok_bind, live]
      exact ih (by omega)
    | false =>
      have inside : count < 34 := by omega
      have set : gatherChecked (scores, count) slot =
          .ok (scores.set count slot.score, count + 1) := by
        unfold gatherChecked
        rw [revoked, put_eq inside, ok_bind, add_eq (show count + 1 < _ by omega)]
        rfl
      have live : liveScores (slot :: rest) = slot.score :: liveScores rest := by
        rw [liveScores, List.filter_cons_of_pos (by rw [revoked]; rfl), List.map_cons, liveScores]
      obtain ⟨gathered, done, within, taken⟩ := @ih (scores.set count slot.score) (count + 1)
        (by omega)
      rw [set, ok_bind, live]
      refine ⟨gathered, done, within, ?_⟩
      rw [taken, take_put inside, List.append_assoc, List.singleton_append]

theorem length_slots_le (recency : Recency) : recency.slots.length ≤ 34 := by
  have ring := List.length_filterMap_le id recency.ring.toList
  have bypass := List.length_filterMap_le id recency.bypass.toList
  rw [Vector.length_toList] at ring bypass
  rw [slots, List.length_append]
  exact Nat.add_le_add ring bypass

theorem liveMeanChecked_eq (recency : Recency) :
    recency.liveMeanChecked = .ok recency.liveMean := by
  have few := recency.length_slots_le
  obtain ⟨gathered, done, inside, scores⟩ :=
    @foldlM_gatherChecked recency.slots (Vector.replicate 34 0) 0 (by omega)
  have short : (liveScores recency.slots).length < 2 ^ 56 := by
    have kept := List.length_filter_le (fun slot : Slot => !slot.revoked) recency.slots
    rw [liveScores, List.length_map]
    omega
  rw [liveMeanChecked, done, ok_bind, front_eq inside, ok_bind, scores, List.take_zero,
    List.nil_append, meanHalfUpChecked_eq short]
  rfl

end Recency

end Reputation
