/-
**Hashing.**

What the library asks of a hash function: a 32-byte digest of any list of bytes, and a digest
derived for a named purpose, so that one input gives unrelated digests for two purposes. Everything
that hashes takes a `Hashing` as an argument, and nothing else about it is ever used.
-/

import Reputation.Bytes

namespace Reputation

/-- Thirty-two bytes. -/
abbrev Bytes32 := Vector UInt8 32

/-- The 32 bytes produced by a hash function. -/
abbrev Digest := Bytes32

/-- A hash function and its purpose-bound derivation. -/
structure Hashing where
  /-- The digest of a list of bytes. -/
  digest : List UInt8 → Digest
  /-- The digest of a list of bytes under a named purpose. -/
  derive : (purpose : String) → List UInt8 → Digest

/-- The bytes that are all the same. -/
def Bytes32.fill (byte : UInt8) : Bytes32 := Vector.replicate 32 byte

/-- The 32 bytes that start with the eight bytes of a number and are zero after them. -/
def Bytes32.ofSeed (seed : UInt64) : Bytes32 :=
  Vector.ofFn fun i => UInt8.ofNat (seed.toNat / 256 ^ i.val)

/-- A list of exactly 32 bytes. -/
def Bytes32.ofList? (bytes : List UInt8) : Option Bytes32 :=
  if length : bytes.toArray.size = 32 then some ⟨bytes.toArray, length⟩ else none

/-- The digest that every chain starts from. -/
def Digest.zero : Digest := Bytes32.fill 0

/-- The number held by the first eight bytes of a digest, least significant first. -/
def Digest.leadingWord (digest : Digest) : UInt64 :=
  UInt64.ofNat (ofLittleEndian (digest.toList.take 8))

end Reputation
