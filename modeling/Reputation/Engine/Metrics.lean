/-
**Metrics.**

Counters of what the engine has done. They are words that start again at zero when they are full.
-/

import Reputation.Record.Update

namespace Reputation

/-- Counters of what the engine has done. -/
structure Metrics where
  ingests : UInt64 := 0
  uniqueIngests : UInt64 := 0
  ringInserts : UInt64 := 0
  ringOverwrites : UInt64 := 0
  ringEvictions : UInt64 := 0
  bypassWrites : UInt64 := 0
  revokesWithImpact : UInt64 := 0
  revokesWithoutImpact : UInt64 := 0
  responses : UInt64 := 0
  rejected : UInt64 := 0
  promotions : UInt64 := 0
  demotions : UInt64 := 0
deriving DecidableEq, Repr

namespace Metrics

/-- Counts where a feedback was written. -/
def countPlacement (metrics : Metrics) : Placement → Metrics
  | .ringInsert => { metrics with ringInserts := metrics.ringInserts + 1 }
  | .ringOverwrite => { metrics with ringOverwrites := metrics.ringOverwrites + 1 }
  | .ringEvict _ => { metrics with ringEvictions := metrics.ringEvictions + 1 }
  | .bypass | .bypassOverwrite => { metrics with bypassWrites := metrics.bypassWrites + 1 }

/-- Counts a feedback that was taken in. -/
def countIngest (metrics : Metrics) (placement : Placement) (isUnique : Bool) : Metrics :=
  { metrics with
    ingests := metrics.ingests + 1
    uniqueIngests := if isUnique then metrics.uniqueIngests + 1 else metrics.uniqueIngests
    }.countPlacement placement

/-- Counts a revocation that was carried out. -/
def countRevoke (metrics : Metrics) (hadImpact : Bool) : Metrics :=
  if hadImpact then { metrics with revokesWithImpact := metrics.revokesWithImpact + 1 }
  else { metrics with revokesWithoutImpact := metrics.revokesWithoutImpact + 1 }

/-- Counts a response that was taken in. -/
def countResponse (metrics : Metrics) : Metrics :=
  { metrics with responses := metrics.responses + 1 }

/-- Counts an event that was refused. -/
def countRejected (metrics : Metrics) : Metrics :=
  { metrics with rejected := metrics.rejected + 1 }

/-- Counts a move of a confirmed tier. -/
def countTransition (metrics : Metrics) : Transition → Metrics
  | .promoted _ _ => { metrics with promotions := metrics.promotions + 1 }
  | .demoted _ _ => { metrics with demotions := metrics.demotions + 1 }
  | .unchanged => metrics

/-- The counters by name, in the order in which they are listed. -/
def entries (metrics : Metrics) : List (String × UInt64) :=
  [("ingests", metrics.ingests), ("unique_ingests", metrics.uniqueIngests),
    ("ring_inserts", metrics.ringInserts), ("ring_overwrites", metrics.ringOverwrites),
    ("ring_evictions", metrics.ringEvictions), ("bypass_writes", metrics.bypassWrites),
    ("revokes_with_impact", metrics.revokesWithImpact),
    ("revokes_without_impact", metrics.revokesWithoutImpact), ("responses", metrics.responses),
    ("rejected", metrics.rejected), ("promotions", metrics.promotions),
    ("demotions", metrics.demotions)]

end Metrics

end Reputation
