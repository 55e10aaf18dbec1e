/-
**Counting distinct raters.**

How many different raters an entity has is estimated from 256 registers of four bits, whatever the
number of raters. A fingerprint is mixed into a word; the low byte of the word picks a register,
and the rest proposes a rank, one more than the zeros that lead it. A register keeps the highest
rank that was proposed, so the same fingerprint changes nothing when it comes again, and the
registers of two lists of raters are joined by taking the higher of each pair.

The estimate is a harmonic mean over the registers. While it is small and some registers are still
empty, the number of empty ones says more, and is used in its place.
-/

import Reputation.Error
import Reputation.Numeric.Logarithm

namespace Reputation

/-- The number of registers. -/
def registerCount : Nat := 256

/-- The highest rank that a register holds. -/
def rankMax : Nat := 15

theorem mod_sixteen_lt (number : Nat) : number % 16 < 16 := Nat.mod_lt number (by decide)

/-- The rank in the four low bits of a number. -/
def lowRank (number : Nat) : Fin 16 := ⟨number % 16, mod_sixteen_lt number⟩

/-- The registers of an entity. -/
structure Cardinality where
  /-- The highest rank proposed to each register, zero if there was none. -/
  registers : Vector (Fin 16) 256
deriving DecidableEq, Repr

namespace Cardinality

/-- The registers before any rater. -/
def empty : Cardinality := ⟨Vector.replicate 256 (lowRank 0)⟩

/-- The registers with the given ranks, the first of which that is too high being refused. -/
def ofRanks (ranks : Vector UInt8 256) : Except Error Cardinality :=
  match ranks.toList.find? fun rank => rankMax < rank.toNat with
  | some rank => .error (.codec (.register rank))
  | none => .ok ⟨ranks.map fun rank => lowRank rank.toNat⟩

/-- Spreads the bits of a word over the whole word. -/
def scramble (word : UInt64) : UInt64 :=
  let word := word + 0x9e3779b97f4a7c15
  let word := (word ^^^ (word >>> 30)) * 0xbf58476d1ce4e5b9
  let word := (word ^^^ (word >>> 27)) * 0x94d049bb133111eb
  word ^^^ (word >>> 31)

/-- The zeros that lead a number of 56 bits. -/
def leadingZeros (bits : Nat) : Nat := if bits = 0 then 56 else 55 - bits.log2

/-- The register of a fingerprint. -/
def registerOf (fingerprint : Fingerprint) : Fin 256 :=
  Fin.ofNat 256 (scramble fingerprint.value).toNat

/-- The rank that a fingerprint proposes to its register. -/
def rankOf (fingerprint : Fingerprint) : Fin 16 :=
  lowRank (min (leadingZeros ((scramble fingerprint.value).toNat / 256) + 1) rankMax)

/-- Whether a fingerprint would raise its register. -/
def isRaisedBy (cardinality : Cardinality) (fingerprint : Fingerprint) : Bool :=
  cardinality.registers[registerOf fingerprint] < rankOf fingerprint

/-- The registers after a fingerprint. -/
def observe (cardinality : Cardinality) (fingerprint : Fingerprint) : Cardinality :=
  if cardinality.isRaisedBy fingerprint then
    ⟨cardinality.registers.set (registerOf fingerprint) (rankOf fingerprint)⟩
  else cardinality

/-- The higher of each pair of registers. -/
def merge (first second : Cardinality) : Cardinality :=
  ⟨Vector.zipWith (fun rank other => if rank < other then other else rank)
    first.registers second.registers⟩

/-- The number of registers to which nothing was proposed. -/
def zeros (cardinality : Cardinality) : Nat := cardinality.registers.toList.countP (·.val = 0)

/-- The bias correction for 256 registers, times the square of their number. -/
def meanScale : Nat := 47073

/-- The largest estimate for which the empty registers are counted instead. -/
def smallRange : Nat := 640

/-- The estimate when every register holds the highest rank. -/
def estimateMax : Nat := meanScale * 2 ^ rankMax / registerCount

/-- The number of raters that leaves `zeros` registers empty on average. -/
def linearCount (zeros : Nat) : Nat :=
  divHalfUp (registerCount * (log2Fixed registerCount - log2Fixed zeros) * naturalLogOfTwo)
    (2 ^ (2 * logFractionBits))

/-- The harmonic mean over the registers, scaled to a number of raters. -/
def harmonicCount (cardinality : Cardinality) : Nat :=
  divHalfUp (meanScale * 2 ^ rankMax)
    (total (cardinality.registers.toList.map fun rank => 2 ^ (rankMax - rank.val)))

/-- The estimated number of distinct raters. -/
def estimate (cardinality : Cardinality) : UInt32 :=
  let harmonic := cardinality.harmonicCount
  let zeros := cardinality.zeros
  UInt32.ofNat <|
    min (if harmonic ≤ smallRange ∧ 0 < zeros then linearCount zeros else harmonic) estimateMax

end Cardinality

end Reputation
