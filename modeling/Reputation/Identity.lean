/-
**Identities.**

Entities are numbered. A rater is known by a 32-byte commitment, and the full content of an event
by a 32-byte seal, which is hashed as it is and never looked into. Inside the record of an entity a
rater is remembered by a 56-bit fingerprint alone.

A fingerprint is derived from the rater, the entity and the entity's salt, so that one rater has
unrelated fingerprints with different entities. The salt is derived from the first accepted
feedback.
-/

import Std.Data.ExtTreeMap
import Reputation.Hash.Basic

namespace Reputation

/-- The number of a scored entity. -/
structure EntityId where
  /-- The number. -/
  value : UInt64
deriving DecidableEq, Repr

/-- Entities are ordered by number. -/
instance : Ord EntityId := ⟨compareOn EntityId.value⟩

instance : Std.TransOrd EntityId := inferInstanceAs (Std.TransCmp (compareOn EntityId.value))

instance : Std.LawfulEqOrd EntityId where
  eq_of_compare {first second} equal := by
    have value : compare first.value second.value = .eq := equal
    cases first
    cases second
    exact congrArg EntityId.mk (Std.LawfulEqCmp.eq_of_compare value)

/-- The decimal text of an entity's number. -/
def EntityId.text (entity : EntityId) : String := toString entity.value.toNat

/-- The bytes of an entity's number, as every hash takes them in. -/
def EntityId.bytes (entity : EntityId) : List UInt8 := littleEndian 8 entity.value.toNat

/-- The commitment to the identity of a rater. -/
structure RaterId where
  /-- The 32 bytes of the commitment. -/
  bytes : Bytes32
deriving DecidableEq, Repr

/-- The commitment to the full content of an event. -/
structure Seal where
  /-- The 32 bytes of the commitment. -/
  bytes : Bytes32
deriving DecidableEq, Repr

/-- The width of a fingerprint in bits. -/
def fingerprintBits : Nat := 56

/-- What an entity's record remembers of a rater. -/
structure Fingerprint where
  /-- The bits of the fingerprint, as a number. -/
  value : UInt64
deriving DecidableEq, Repr

/-- The word whose fingerprint bits are all set. -/
def Fingerprint.mask : UInt64 := UInt64.ofNat (2 ^ fingerprintBits - 1)

/-- The fingerprint in the lowest bits of a word. -/
def Fingerprint.ofWord (word : UInt64) : Fingerprint := ⟨word &&& mask⟩

theorem Fingerprint.toNat_ofWord (word : UInt64) :
    (ofWord word).value.toNat = word.toNat % 2 ^ fingerprintBits := by
  show (word &&& mask).toNat = word.toNat % 2 ^ 56
  rw [UInt64.toNat_and]
  exact Nat.and_two_pow_sub_one_eq_mod word.toNat 56

theorem Fingerprint.value_ofWord_lt (word : UInt64) :
    (Fingerprint.ofWord word).value.toNat < 2 ^ fingerprintBits := by
  rw [toNat_ofWord]
  exact Nat.mod_lt _ (by decide)

/-- The fourteen hexadecimal digits of a fingerprint. -/
def Fingerprint.text (fingerprint : Fingerprint) : String := hexNumber 14 fingerprint.value.toNat

/-- The purpose under which fingerprints are derived. -/
def fingerprintPurpose : String := "vouch fingerprint v1"

/-- The purpose under which salts are derived. -/
def saltPurpose : String := "vouch entity salt v1"

/-- The fingerprint of a rater with an entity of the given salt. -/
def Fingerprint.of (hashing : Hashing) (salt : UInt64) (entity : EntityId) (rater : RaterId) :
    Fingerprint :=
  .ofWord (hashing.derive fingerprintPurpose
    (littleEndian 8 salt.toNat ++ entity.bytes ++ rater.bytes.toList)).leadingWord

/-- The salt of an entity whose first accepted feedback is by the given rater at the given time. -/
def entitySalt (hashing : Hashing) (entity : EntityId) (rater : RaterId) (time : UInt64) : UInt64 :=
  (hashing.derive saltPurpose
    (entity.bytes ++ rater.bytes.toList ++ littleEndian 8 time.toNat)).leadingWord

end Reputation
