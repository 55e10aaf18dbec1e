/-
**Diversity, confidence and quality.**

Diversity is the share of distinct raters among the feedbacks. Confidence adds up four bounded
parts: a base that grows with the number of feedbacks, and bonuses for diversity, for the spread
over epochs and for loyalty. Quality is the blend of the two averages, damped by confidence, so that
a young entity does not start at the top.
-/

import Reputation.Config.Bounds

namespace Reputation

/-- The highest diversity. -/
def diversityMax : Nat := 255

/-- The share of distinct raters among the feedbacks, zero without feedback. -/
def diversityOf (raters feedbacks : UInt32) : UInt8 :=
  UInt8.ofNat (proportion (min raters.toNat feedbacks.toNat) feedbacks.toNat diversityMax)

/-- What confidence is made of. -/
structure ConfidenceInputs where
  feedbacks : UInt32
  diversity : UInt8
  epochs : UInt32
  loyalty : UInt8
deriving DecidableEq, Repr

/-- The part of confidence that comes from the number of feedbacks. -/
def baseConfidence (feedbacks : Nat) (policy : ConfidencePolicy) : Nat :=
  let samples := policy.coldStartSamples.toNat
  if feedbacks < samples then feedbacks * policy.coldStartStep.toNat
  else
    min (policy.coldStartFloor.toNat + (feedbacks - samples) * policy.perFeedback.toNat)
      policy.ceiling.toNat

/-- The confidence in an entity. -/
def confidenceOf (inputs : ConfidenceInputs) (policy : ConfidencePolicy) : UInt8 :=
  let uniqueness := divHalfUp (inputs.diversity.toNat * policy.uniquenessMax.toNat) diversityMax
  let spread := min (inputs.epochs.toNat * policy.epochBonus.toNat) policy.epochBonusMax.toNat
  let loyalty :=
    min (inputs.loyalty.toNat / max policy.loyaltyDivisor.toNat 1) policy.loyaltyBonusMax.toNat
  UInt8.ofNat
    (min (baseConfidence inputs.feedbacks.toNat policy + uniqueness + spread + loyalty)
      confidenceMax)

/-- The quality of an entity: its averages blended and damped by confidence. -/
def qualityOf (fast slow : UInt32) (confidence : UInt8) (policy : ConfidencePolicy) : UInt32 :=
  let weight := min policy.fastWeight.toNat 100
  let blended := fast.toNat * weight + slow.toNat * (100 - weight)
  UInt32.ofNat
    (min (divHalfUp (blended * min confidence.toNat confidenceMax) (100 * 100)) qualityMax)

end Reputation
