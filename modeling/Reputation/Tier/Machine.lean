/-
**Earning a tier.**

Which tier an entity is fit for is decided anew at every event. Falling is immediate. Rising takes
time: the entity becomes a candidate, and the tier is confirmed once the candidacy has held for the
vesting epochs. A fall leaves an open candidacy and its first epoch alone, so that a short dip does
not undo the waiting; a candidacy ends only when the entity is fit for just its confirmed tier. A
lower candidate has been fit all along and keeps its clock; a higher one starts anew.
-/

import Reputation.Config.Basic

namespace Reputation

/-- What the thresholds are held against. -/
structure TierMetrics where
  quality : UInt32
  risk : UInt8
  confidence : UInt8
  loyalty : UInt8
deriving DecidableEq, Repr

/-- How the confirmed tier moved. -/
inductive Transition where
  | unchanged
  | promoted (source target : Tier)
  | demoted (source target : Tier)
deriving DecidableEq, Repr

/-- The confirmed tier and the candidacy for a higher one. -/
structure TierMachine where
  confirmed : Tier := .unrated
  candidate : Option Tier := none
  /-- The epoch in which the latest candidacy began. -/
  candidateEpoch : UInt64 := 0
deriving DecidableEq, Repr

/-- Whether the metrics meet what a tier asks for. -/
def TierMetrics.meets (metrics : TierMetrics) (policy : TierPolicy) (tier : Tier) : Bool :=
  match policy.threshold? tier with
  | none => true
  | some threshold =>
    threshold.minQuality ≤ metrics.quality && metrics.risk ≤ threshold.maxRisk &&
      threshold.minConfidence ≤ metrics.confidence &&
      (tier ≠ .platinum || policy.platinumLoyalty ≤ metrics.loyalty)

/-- The highest tier whose threshold is met. -/
def TierMetrics.eligible (metrics : TierMetrics) (policy : TierPolicy) : Tier :=
  (Tier.rated.reverse.find? (metrics.meets policy)).getD .unrated

namespace TierMachine

/-- The tier that others see. -/
def effective (machine : TierMachine) : Tier := machine.confirmed

/-- Whether a candidacy for at least the given tier is open. -/
def keepsClock (machine : TierMachine) (eligible : Tier) : Bool :=
  machine.candidate.any (eligible ≤ ·)

/-- Takes up the candidacy for a higher tier and confirms it once it has held long enough. -/
def pursue (machine : TierMachine) (eligible : Tier) (epoch : UInt64) (policy : TierPolicy) :
    TierMachine × Transition :=
  let start := if machine.keepsClock eligible then machine.candidateEpoch else epoch
  if policy.vestingEpochs.toNat ≤ epoch.toNat - start.toNat then
    (⟨eligible, none, start⟩, .promoted machine.confirmed eligible)
  else (⟨machine.confirmed, some eligible, start⟩, .unchanged)

/-- The machine after an event at which the given tier was the one that the entity is fit for. -/
def advance (machine : TierMachine) (eligible : Tier) (epoch : UInt64) (policy : TierPolicy) :
    TierMachine × Transition :=
  if eligible < machine.confirmed then
    ({ machine with confirmed := eligible }, .demoted machine.confirmed eligible)
  else if eligible = machine.confirmed then ({ machine with candidate := none }, .unchanged)
  else machine.pursue eligible epoch policy

/-- The machine after an event in the given epoch. -/
def evaluate (machine : TierMachine) (metrics : TierMetrics) (epoch : UInt64)
    (policy : TierPolicy) : TierMachine × Transition :=
  machine.advance (metrics.eligible policy) epoch policy

end TierMachine

end Reputation
