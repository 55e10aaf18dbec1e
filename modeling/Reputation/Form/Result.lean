/-
**The structured forms of results.**

What the engine answers, and the parts of a record that are shown. A placement or a transition is
a structure with its name as the kind.
-/

import Reputation.Engine.Metrics
import Reputation.Form.Event
import Reputation.Json.Writer

namespace Reputation

open Form

instance : Form Placement where
  toDatum
    | .ringInsert => .table [("kind", .text "ring_insert")]
    | .ringOverwrite => .table [("kind", .text "ring_overwrite")]
    | .ringEvict evicted => .table [("kind", .text "ring_evict"), ("evicted", toDatum evicted)]
    | .bypass => .table [("kind", .text "bypass")]
    | .bypassOverwrite => .table [("kind", .text "bypass_overwrite")]
  ofDatum? datum := do
    let (kind, rest) ← datum.tagged?
    match kind with
    | "ring_insert" => (rest.members? []).map fun _ => .ringInsert
    | "ring_overwrite" => (rest.members? []).map fun _ => .ringOverwrite
    | "ring_evict" =>
      let [evicted] ← rest.members? ["evicted"] | none
      return .ringEvict (← Datum.required evicted)
    | "bypass" => (rest.members? []).map fun _ => .bypass
    | "bypass_overwrite" => (rest.members? []).map fun _ => .bypassOverwrite
    | _ => none

instance : Form Transition where
  toDatum
    | .unchanged => .table [("kind", .text "unchanged")]
    | .promoted source target =>
      .table [("kind", .text "promoted"), ("from", toDatum source), ("to", toDatum target)]
    | .demoted source target =>
      .table [("kind", .text "demoted"), ("from", toDatum source), ("to", toDatum target)]
  ofDatum? datum := do
    let (kind, rest) ← datum.tagged?
    match kind with
    | "unchanged" => (rest.members? []).map fun _ => .unchanged
    | "promoted" =>
      let [source, target] ← rest.members? ["from", "to"] | none
      return .promoted (← Datum.required source) (← Datum.required target)
    | "demoted" =>
      let [source, target] ← rest.members? ["from", "to"] | none
      return .demoted (← Datum.required source) (← Datum.required target)
    | _ => none

/-- The name of an outcome. -/
def RevokeOutcome.name : RevokeOutcome → String
  | .revoked => "revoked"
  | .notFound => "not_found"
  | .alreadyRevoked => "already_revoked"

/-- The outcome of a name. -/
def RevokeOutcome.ofName? (name : String) : Option RevokeOutcome :=
  [RevokeOutcome.revoked, .notFound, .alreadyRevoked].find? (·.name = name)

instance : Form RevokeOutcome where
  toDatum outcome := .text outcome.name
  ofDatum? datum := datum.alternative?.bind RevokeOutcome.ofName?

instance : Form UpdateResult where
  toDatum result := .table [
    ("entity", toDatum result.entity),
    ("tier", toDatum result.tier),
    ("quality", toDatum result.quality),
    ("confidence", toDatum result.confidence),
    ("risk", toDatum result.risk),
    ("diversity", toDatum result.diversity),
    ("is_unique", toDatum result.isUnique),
    ("placement", toDatum result.placement),
    ("transition", toDatum result.transition)]
  ofDatum? datum := do
    let [entity, tier, quality, confidence, risk, diversity, isUnique, placement, transition] ←
      datum.members? ["entity", "tier", "quality", "confidence", "risk", "diversity", "is_unique",
        "placement", "transition"]
      | none
    return {
      entity := ← Datum.required entity
      tier := ← Datum.required tier
      quality := ← Datum.required quality
      confidence := ← Datum.required confidence
      risk := ← Datum.required risk
      diversity := ← Datum.required diversity
      isUnique := ← Datum.required isUnique
      placement := ← Datum.required placement
      transition := ← Datum.required transition }

instance : Form RevokeResult where
  toDatum result := .table [
    ("entity", toDatum result.entity),
    ("original_score", toDatum result.originalScore),
    ("had_impact", toDatum result.hadImpact),
    ("outcome", toDatum result.outcome),
    ("new_tier", toDatum result.newTier),
    ("new_quality", toDatum result.newQuality),
    ("new_confidence", toDatum result.newConfidence)]
  ofDatum? datum := do
    let [entity, originalScore, hadImpact, outcome, newTier, newQuality, newConfidence] ←
      datum.members? ["entity", "original_score", "had_impact", "outcome", "new_tier",
        "new_quality", "new_confidence"]
      | none
    return {
      entity := ← Datum.required entity
      originalScore := ← Datum.optional originalScore
      hadImpact := ← Datum.required hadImpact
      outcome := ← Datum.required outcome
      newTier := ← Datum.required newTier
      newQuality := ← Datum.required newQuality
      newConfidence := ← Datum.required newConfidence }

instance : Form ResponseResult where
  toDatum result := .table [
    ("entity", toDatum result.entity),
    ("response_count", toDatum result.responseCount),
    ("response_digest", toDatum result.responseHead)]
  ofDatum? datum := do
    let [entity, responseCount, responseHead] ←
      datum.members? ["entity", "response_count", "response_digest"] | none
    return {
      entity := ← Datum.required entity
      responseCount := ← Datum.required responseCount
      responseHead := ← Datum.required responseHead }

instance : Form Summary where
  toDatum summary := .table [
    ("entity", toDatum summary.entity),
    ("tier", toDatum summary.tier),
    ("quality", toDatum summary.quality),
    ("risk", toDatum summary.risk),
    ("confidence", toDatum summary.confidence),
    ("diversity_ratio", toDatum summary.diversity),
    ("feedback_count", toDatum summary.feedbackCount),
    ("unique_estimate", toDatum summary.raters),
    ("ema_fast", toDatum summary.fast),
    ("ema_slow", toDatum summary.slow),
    ("loyalty_score", toDatum summary.loyalty),
    ("first_seen_time", toDatum summary.firstSeen),
    ("last_seen_time", toDatum summary.lastSeen)]
  ofDatum? datum := do
    let [entity, tier, quality, risk, confidence, diversity, feedbackCount, raters, fast, slow,
        loyalty, firstSeen, lastSeen] ←
      datum.members? ["entity", "tier", "quality", "risk", "confidence", "diversity_ratio",
        "feedback_count", "unique_estimate", "ema_fast", "ema_slow", "loyalty_score",
        "first_seen_time", "last_seen_time"]
      | none
    return {
      entity := ← Datum.required entity
      tier := ← Datum.required tier
      quality := ← Datum.required quality
      risk := ← Datum.required risk
      confidence := ← Datum.required confidence
      diversity := ← Datum.required diversity
      feedbackCount := ← Datum.required feedbackCount
      raters := ← Datum.required raters
      fast := ← Datum.required fast
      slow := ← Datum.required slow
      loyalty := ← Datum.required loyalty
      firstSeen := ← Datum.required firstSeen
      lastSeen := ← Datum.required lastSeen }

instance : Form Statistics where
  toDatum statistics := .table [
    ("ema_fast", toDatum statistics.fast),
    ("ema_slow", toDatum statistics.slow),
    ("ema_volatility", toDatum statistics.volatility),
    ("ema_arrival", toDatum statistics.arrival),
    ("arrival_seeded", toDatum statistics.arrivalSeeded),
    ("burst_pressure", toDatum statistics.burst),
    ("neg_pressure", toDatum statistics.negative),
    ("loyalty_score", toDatum statistics.loyalty),
    ("peak_ema", toDatum statistics.peak),
    ("max_drawdown", toDatum statistics.drawdown)]
  ofDatum? datum := do
    let [fast, slow, volatility, arrival, arrivalSeeded, burst, negative, loyalty, peak,
        drawdown] ←
      datum.members? ["ema_fast", "ema_slow", "ema_volatility", "ema_arrival", "arrival_seeded",
        "burst_pressure", "neg_pressure", "loyalty_score", "peak_ema", "max_drawdown"]
      | none
    return {
      fast := ← Datum.required fast
      slow := ← Datum.required slow
      volatility := ← Datum.required volatility
      arrival := ← Datum.required arrival
      arrivalSeeded := ← Datum.required arrivalSeeded
      burst := ← Datum.required burst
      negative := ← Datum.required negative
      loyalty := ← Datum.required loyalty
      peak := ← Datum.required peak
      drawdown := ← Datum.required drawdown }

instance : Form RiskSignals where
  toDatum signals := .table [
    ("sybil", toDatum signals.sybil),
    ("burst", toDatum signals.burst),
    ("stagnation", toDatum signals.stagnation),
    ("shock", toDatum signals.shock),
    ("volatility", toDatum signals.volatility),
    ("arrival", toDatum signals.arrival)]
  ofDatum? datum := do
    let [sybil, burst, stagnation, shock, volatility, arrival] ←
      datum.members? ["sybil", "burst", "stagnation", "shock", "volatility", "arrival"] | none
    return {
      sybil := ← Datum.required sybil
      burst := ← Datum.required burst
      stagnation := ← Datum.required stagnation
      shock := ← Datum.required shock
      volatility := ← Datum.required volatility
      arrival := ← Datum.required arrival }

instance : Form TierMachine where
  toDatum machine := .table [
    ("confirmed", toDatum machine.confirmed),
    ("candidate", toDatum machine.candidate),
    ("candidate_epoch", toDatum machine.candidateEpoch)]
  ofDatum? datum := do
    let [confirmed, candidate, candidateEpoch] ←
      datum.members? ["confirmed", "candidate", "candidate_epoch"] | none
    return {
      confirmed := ← Datum.required confirmed
      candidate := ← Datum.optional candidate
      candidateEpoch := ← Datum.required candidateEpoch }

instance : Form Metrics where
  toDatum metrics := .table (metrics.entries.map fun entry => (entry.1, toDatum entry.2))
  ofDatum? datum := do
    let members ← datum.members? (({} : Metrics).entries.map (·.1))
    let [ingests, uniqueIngests, ringInserts, ringOverwrites, ringEvictions, bypassWrites,
        revokesWithImpact, revokesWithoutImpact, responses, rejected, promotions, demotions] ←
      members.mapM fun member => (Datum.required member : Option UInt64)
      | none
    return {
      ingests
      uniqueIngests
      ringInserts
      ringOverwrites
      ringEvictions
      bypassWrites
      revokesWithImpact
      revokesWithoutImpact
      responses
      rejected
      promotions
      demotions }

/-- The counters as one line of JSON. -/
def Metrics.text (metrics : Metrics) : String := Json.write (toDatum metrics)

end Reputation
