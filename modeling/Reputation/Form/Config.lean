/-
**The structured form of a configuration.**

A configuration is a table of sections, and a section is a table of settings. A section or a
setting that is missing has its value from the configuration that says nothing. A threshold has to
name all of its fields. Bounds are not checked here.
-/

import Reputation.Config.Bounds
import Reputation.Form.Datum

namespace Reputation

open Form

instance : Form RingPolicy where
  toDatum policy := .table [
    ("mrt_min_secs", toDatum policy.residencyTime),
    ("mrt_max_bypass", toDatum policy.bypassLimit)]
  ofDatum? datum := do
    let [residencyTime, bypassLimit] ← datum.partialMembers? ["mrt_min_secs", "mrt_max_bypass"]
      | none
    let base : RingPolicy := {}
    return {
      residencyTime := ← Datum.defaulting residencyTime base.residencyTime
      bypassLimit := ← Datum.defaulting bypassLimit base.bypassLimit }

instance : Form StatisticsPolicy where
  toDatum policy := .table [
    ("alpha_fast_bps", toDatum policy.fastRate),
    ("alpha_slow_bps", toDatum policy.slowRate),
    ("alpha_volatility_bps", toDatum policy.volatilityRate),
    ("alpha_arrival_bps", toDatum policy.arrivalRate),
    ("burst_alpha_up_bps", toDatum policy.burstRate),
    ("burst_decay_pct", toDatum policy.decayShare),
    ("neg_score_threshold", toDatum policy.negativeThreshold),
    ("neg_alpha_up_bps", toDatum policy.negativeRate),
    ("loyalty_min_delta_secs", toDatum policy.loyaltyDelay),
    ("loyalty_step", toDatum policy.loyaltyStep)]
  ofDatum? datum := do
    let [fastRate, slowRate, volatilityRate, arrivalRate, burstRate, decayShare,
        negativeThreshold, negativeRate, loyaltyDelay, loyaltyStep] ←
      datum.partialMembers? ["alpha_fast_bps", "alpha_slow_bps", "alpha_volatility_bps",
        "alpha_arrival_bps", "burst_alpha_up_bps", "burst_decay_pct", "neg_score_threshold",
        "neg_alpha_up_bps", "loyalty_min_delta_secs", "loyalty_step"]
      | none
    let base : StatisticsPolicy := {}
    return {
      fastRate := ← Datum.defaulting fastRate base.fastRate
      slowRate := ← Datum.defaulting slowRate base.slowRate
      volatilityRate := ← Datum.defaulting volatilityRate base.volatilityRate
      arrivalRate := ← Datum.defaulting arrivalRate base.arrivalRate
      burstRate := ← Datum.defaulting burstRate base.burstRate
      decayShare := ← Datum.defaulting decayShare base.decayShare
      negativeThreshold := ← Datum.defaulting negativeThreshold base.negativeThreshold
      negativeRate := ← Datum.defaulting negativeRate base.negativeRate
      loyaltyDelay := ← Datum.defaulting loyaltyDelay base.loyaltyDelay
      loyaltyStep := ← Datum.defaulting loyaltyStep base.loyaltyStep }

instance : Form ConfidencePolicy where
  toDatum policy := .table [
    ("cold_start_min_samples", toDatum policy.coldStartSamples),
    ("cold_start_step", toDatum policy.coldStartStep),
    ("cold_start_floor", toDatum policy.coldStartFloor),
    ("per_feedback", toDatum policy.perFeedback),
    ("ceiling", toDatum policy.ceiling),
    ("uniqueness_bonus_max", toDatum policy.uniquenessMax),
    ("epoch_bonus", toDatum policy.epochBonus),
    ("epoch_bonus_max", toDatum policy.epochBonusMax),
    ("loyalty_divisor", toDatum policy.loyaltyDivisor),
    ("loyalty_bonus_max", toDatum policy.loyaltyBonusMax),
    ("quality_fast_weight_pct", toDatum policy.fastWeight)]
  ofDatum? datum := do
    let [coldStartSamples, coldStartStep, coldStartFloor, perFeedback, ceiling, uniquenessMax,
        epochBonus, epochBonusMax, loyaltyDivisor, loyaltyBonusMax, fastWeight] ←
      datum.partialMembers? ["cold_start_min_samples", "cold_start_step", "cold_start_floor",
        "per_feedback", "ceiling", "uniqueness_bonus_max", "epoch_bonus", "epoch_bonus_max",
        "loyalty_divisor", "loyalty_bonus_max", "quality_fast_weight_pct"]
      | none
    let base : ConfidencePolicy := {}
    return {
      coldStartSamples := ← Datum.defaulting coldStartSamples base.coldStartSamples
      coldStartStep := ← Datum.defaulting coldStartStep base.coldStartStep
      coldStartFloor := ← Datum.defaulting coldStartFloor base.coldStartFloor
      perFeedback := ← Datum.defaulting perFeedback base.perFeedback
      ceiling := ← Datum.defaulting ceiling base.ceiling
      uniquenessMax := ← Datum.defaulting uniquenessMax base.uniquenessMax
      epochBonus := ← Datum.defaulting epochBonus base.epochBonus
      epochBonusMax := ← Datum.defaulting epochBonusMax base.epochBonusMax
      loyaltyDivisor := ← Datum.defaulting loyaltyDivisor base.loyaltyDivisor
      loyaltyBonusMax := ← Datum.defaulting loyaltyBonusMax base.loyaltyBonusMax
      fastWeight := ← Datum.defaulting fastWeight base.fastWeight }

instance : Form RiskPolicy where
  toDatum policy := .table [
    ("sybil_weight", toDatum policy.sybilWeight),
    ("burst_weight", toDatum policy.burstWeight),
    ("stagnation_weight", toDatum policy.stagnationWeight),
    ("shock_weight", toDatum policy.shockWeight),
    ("volatility_weight", toDatum policy.volatilityWeight),
    ("arrival_weight", toDatum policy.arrivalWeight),
    ("stagnation_ref", toDatum policy.stagnationReference),
    ("shock_ref", toDatum policy.shockReference),
    ("volatility_ref", toDatum policy.volatilityReference),
    ("arrival_fast_ref", toDatum policy.arrivalReference)]
  ofDatum? datum := do
    let [sybilWeight, burstWeight, stagnationWeight, shockWeight, volatilityWeight, arrivalWeight,
        stagnationReference, shockReference, volatilityReference, arrivalReference] ←
      datum.partialMembers? ["sybil_weight", "burst_weight", "stagnation_weight", "shock_weight",
        "volatility_weight", "arrival_weight", "stagnation_ref", "shock_ref", "volatility_ref",
        "arrival_fast_ref"]
      | none
    let base : RiskPolicy := {}
    return {
      sybilWeight := ← Datum.defaulting sybilWeight base.sybilWeight
      burstWeight := ← Datum.defaulting burstWeight base.burstWeight
      stagnationWeight := ← Datum.defaulting stagnationWeight base.stagnationWeight
      shockWeight := ← Datum.defaulting shockWeight base.shockWeight
      volatilityWeight := ← Datum.defaulting volatilityWeight base.volatilityWeight
      arrivalWeight := ← Datum.defaulting arrivalWeight base.arrivalWeight
      stagnationReference := ← Datum.defaulting stagnationReference base.stagnationReference
      shockReference := ← Datum.defaulting shockReference base.shockReference
      volatilityReference := ← Datum.defaulting volatilityReference base.volatilityReference
      arrivalReference := ← Datum.defaulting arrivalReference base.arrivalReference }

instance : Form Threshold where
  toDatum threshold := .table [
    ("min_quality", toDatum threshold.minQuality),
    ("max_risk", toDatum threshold.maxRisk),
    ("min_confidence", toDatum threshold.minConfidence)]
  ofDatum? datum := do
    let [minQuality, maxRisk, minConfidence] ←
      datum.members? ["min_quality", "max_risk", "min_confidence"] | none
    return {
      minQuality := ← Datum.required minQuality
      maxRisk := ← Datum.required maxRisk
      minConfidence := ← Datum.required minConfidence }

instance : Form TierPolicy where
  toDatum policy := .table [
    ("epoch_length_secs", toDatum policy.epochLength),
    ("vesting_epochs", toDatum policy.vestingEpochs),
    ("bronze", toDatum policy.bronze),
    ("silver", toDatum policy.silver),
    ("gold", toDatum policy.gold),
    ("platinum", toDatum policy.platinum),
    ("platinum_loyalty_gate", toDatum policy.platinumLoyalty)]
  ofDatum? datum := do
    let [epochLength, vestingEpochs, bronze, silver, gold, platinum, platinumLoyalty] ←
      datum.partialMembers? ["epoch_length_secs", "vesting_epochs", "bronze", "silver", "gold",
        "platinum", "platinum_loyalty_gate"]
      | none
    let base : TierPolicy := {}
    return {
      epochLength := ← Datum.defaulting epochLength base.epochLength
      vestingEpochs := ← Datum.defaulting vestingEpochs base.vestingEpochs
      bronze := ← Datum.defaulting bronze base.bronze
      silver := ← Datum.defaulting silver base.silver
      gold := ← Datum.defaulting gold base.gold
      platinum := ← Datum.defaulting platinum base.platinum
      platinumLoyalty := ← Datum.defaulting platinumLoyalty base.platinumLoyalty }

instance : Form ReportPolicy where
  toDatum policy := .table [
    ("log_level", toDatum policy.level),
    ("json_logs", toDatum policy.json)]
  ofDatum? datum := do
    let [level, json] ← datum.partialMembers? ["log_level", "json_logs"] | none
    let base : ReportPolicy := {}
    return {
      level := ← Datum.defaulting level base.level
      json := ← Datum.defaulting json base.json }

instance : Form Config where
  toDatum config := .table [
    ("ring", toDatum config.ring),
    ("stats", toDatum config.statistics),
    ("confidence", toDatum config.confidence),
    ("risk", toDatum config.risk),
    ("tiers", toDatum config.tiers),
    ("observability", toDatum config.report)]
  ofDatum? datum := do
    let [ring, statistics, confidence, risk, tiers, report] ←
      datum.partialMembers? ["ring", "stats", "confidence", "risk", "tiers", "observability"]
      | none
    return {
      ring := ← Datum.defaulting ring {}
      statistics := ← Datum.defaulting statistics {}
      confidence := ← Datum.defaulting confidence {}
      risk := ← Datum.defaulting risk {}
      tiers := ← Datum.defaulting tiers {}
      report := ← Datum.defaulting report {} }

/-- The configuration that a structured value stands for. -/
def Config.ofDatum (datum : Datum) : Except Error Config :=
  match Form.ofDatum? datum with
  | some config => .ok config
  | none => .error .form

end Reputation
