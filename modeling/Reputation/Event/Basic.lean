/-
**Events.**

Three events reach the engine: a rater's feedback on an entity, the revocation of an earlier
feedback by its rater, and a response by the entity's owner to one of its feedbacks. Identities are
settled before; only the numbers that the engine depends on are checked here.
-/

import Reputation.Error

namespace Reputation

/-- A rater's feedback on an entity. -/
structure Feedback where
  entity : EntityId
  rater : RaterId
  /-- A score from zero to the highest one. -/
  score : UInt8
  /-- The place of this feedback among those of the rater on the entity, counted from one. -/
  sequence : UInt64
  /-- The time in seconds. -/
  time : UInt64
  /-- The commitment to the full feedback. -/
  content : Seal
deriving DecidableEq, Repr

/-- The revocation of an earlier feedback by its rater. -/
structure Revocation where
  entity : EntityId
  rater : RaterId
  /-- The sequence index of the feedback that is revoked. -/
  sequence : UInt64
  /-- The time in seconds. -/
  time : UInt64
  /-- The seal that the rater claims for the revoked feedback. -/
  claimed : Seal
deriving DecidableEq, Repr

/-- A response by the owner of an entity to one of its feedbacks. -/
structure Response where
  entity : EntityId
  /-- The rater of the feedback that is answered. -/
  rater : RaterId
  /-- The sequence index of the feedback that is answered. -/
  sequence : UInt64
  /-- The time in seconds. -/
  time : UInt64
  /-- The commitment to the full response. -/
  content : Seal
deriving DecidableEq, Repr

/-- Sequence indices start at one. -/
def checkSequence (sequence : UInt64) : Except Error Unit :=
  if sequence = 0 then .error (.validation .sequenceZero) else .ok ()

/-- The checks on a feedback: the score first, then the sequence index. -/
def Feedback.check (event : Feedback) : Except Error Unit :=
  if scoreMax < event.score.toNat then .error (.validation (.scoreOutOfRange event.score))
  else checkSequence event.sequence

/-- The check on a revocation. -/
def Revocation.check (event : Revocation) : Except Error Unit := checkSequence event.sequence

/-- The check on a response. -/
def Response.check (event : Response) : Except Error Unit := checkSequence event.sequence

end Reputation
