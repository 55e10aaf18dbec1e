/-
**Slots.**

A slot remembers the latest feedback of one rater: fingerprint, score, whether it was revoked, its
sequence index and its time. The first three are packed into one word, fingerprint above score
above mark: 56, 7 and 1 bits.
-/

import Reputation.Error

namespace Reputation

/-- The latest feedback of one rater. -/
structure Slot where
  fingerprint : Fingerprint
  score : UInt8
  revoked : Bool
  sequence : UInt64
  writtenAt : UInt64
deriving DecidableEq, Repr

namespace Slot

/-- The word that holds fingerprint, score and mark; of the score its seven low bits. -/
def pack (slot : Slot) : UInt64 :=
  UInt64.ofNat
    (slot.fingerprint.value.toNat * 256 + slot.score.toNat % 128 * 2 + slot.revoked.toNat)

/-- The score in a packed word. -/
def packedScore (word : UInt64) : UInt8 := UInt8.ofNat (word.toNat / 2 % 128)

/-- The slot of a packed word, refused if its score is too high. -/
def unpack (word sequence writtenAt : UInt64) : Except Error Slot :=
  if scoreMax < (packedScore word).toNat then .error (.codec (.slotScore (packedScore word)))
  else .ok
    { fingerprint := .ofWord (UInt64.ofNat (word.toNat / 256))
      score := packedScore word
      revoked := word.toNat % 2 == 1
      sequence
      writtenAt }

end Slot

end Reputation
