/-
**The engine.**

A registry of records by entity, the configuration in force, and the counters. Each entity has a
slot, which is empty until its first feedback is accepted. Every call gives the engine after it,
its answer and what was reported meanwhile; events on one entity touch no slot but its own.

An event that is refused is counted and reported. A feedback is checked before its entity gets a
slot. A response to an entity without a slot is answered at once, neither counted nor reported.
-/

import Reputation.Config.Bounds
import Reputation.Engine.Log
import Reputation.Engine.Metrics

namespace Reputation

/-- The records by entity. -/
abbrev Registry := Std.ExtTreeMap EntityId (Option Record)

/-- The engine. -/
structure Engine where
  slots : Registry := ∅
  config : Config := {}
  metrics : Metrics := {}

/-- What came of a call. -/
structure Outcome (α : Type) where
  engine : Engine
  answer : Except Error α
  log : List LogEntry

namespace Engine

/-- The version of the engine. -/
def version : String := "0.1.0"

/-- An engine without records, if the configuration is within bounds. -/
def start (config : Config) : Except Error Engine := do
  config.check
  return { config }

/-- The record of an entity. -/
def record? (engine : Engine) (entity : EntityId) : Option Record := engine.slots[entity]?.join

/-- What is shown of an entity. -/
def summary? (engine : Engine) (entity : EntityId) : Option Summary :=
  (engine.record? entity).map (·.summary)

/-- The heads of the chains of an entity. -/
def heads? (engine : Engine) (entity : EntityId) : Option Heads :=
  (engine.record? entity).map (·.heads)

/-- All records, by entity. -/
def records (engine : Engine) : List Record := engine.slots.toList.filterMap (·.2)

/-- The number of entities with a record. -/
def entityCount (engine : Engine) : Nat := engine.records.length

/-- The number of slots, empty ones included. -/
def slotCount (engine : Engine) : Nat := engine.slots.size

/-- Makes sure that an entity has a slot. -/
def openSlot (engine : Engine) (entity : EntityId) : Engine :=
  { engine with slots := engine.slots.insertIfNew entity none }

/-- Puts a record into the slot of an entity. -/
def setRecord (engine : Engine) (entity : EntityId) (record : Record) : Engine :=
  { engine with slots := engine.slots.insert entity (some record) }

/-- Puts a record in place of any other one of its entity. -/
def importRecord (engine : Engine) (record : Record) : Engine :=
  engine.setRecord record.entity record

/-- Counts and reports an event that is refused. -/
def reject {α : Type} (engine : Engine) (entity : EntityId) (operation : Operation)
    (error : Error) : Outcome α where
  engine := { engine with metrics := engine.metrics.countRejected }
  answer := .error error
  log := [.inputRejected entity operation error]

/-- What is reported of a move of a confirmed tier. -/
def transitionLog (entity : EntityId) : Transition → List LogEntry
  | .promoted source target => [.tierPromoted entity source target]
  | .demoted source target => [.tierDemoted entity source target]
  | .unchanged => []

/-- Keeps an ingested feedback. -/
def keepIngested (engine : Engine) (event : Feedback) (ingested : Ingested) :
    Outcome UpdateResult where
  engine :=
    { engine.setRecord event.entity ingested.record with
      metrics := (engine.metrics.countIngest ingested.result.placement
        ingested.result.isUnique).countTransition ingested.result.transition }
  answer := .ok ingested.result
  log := transitionLog event.entity ingested.result.transition

/-- Takes in a feedback, the operation being reported already. -/
def applyIngest (engine : Engine) (hashing : Hashing) (event : Feedback) : Outcome UpdateResult :=
  match event.check with
  | .error error => engine.reject event.entity .ingest error
  | .ok () =>
    let engine := engine.openSlot event.entity
    match Record.ingest hashing engine.config (engine.record? event.entity) event with
    | .error error => engine.reject event.entity .ingest error
    | .ok ingested => engine.keepIngested event ingested

/-- Keeps a revocation. -/
def keepRevoked (engine : Engine) (event : Revocation) (revoked : Revoked) :
    Outcome RevokeResult where
  engine :=
    { (revoked.record.elim engine (engine.setRecord event.entity)) with
      metrics :=
        (engine.metrics.countRevoke revoked.result.hadImpact).countTransition revoked.transition }
  answer := .ok revoked.result
  log := transitionLog event.entity revoked.transition

/-- Carries out a revocation, the operation being reported already. -/
def applyRevoke (engine : Engine) (hashing : Hashing) (event : Revocation) :
    Outcome RevokeResult :=
  match Record.revoke hashing engine.config (engine.record? event.entity) event with
  | .error error => engine.reject event.entity .revoke error
  | .ok revoked => engine.keepRevoked event revoked

/-- Keeps a response. -/
def keepResponded (engine : Engine) (event : Response) (responded : Responded) :
    Outcome ResponseResult where
  engine :=
    { engine.setRecord event.entity responded.record with
      metrics := engine.metrics.countResponse }
  answer := .ok responded.result
  log := []

/-- Takes in a response, the operation being reported already. -/
def applyRespond (engine : Engine) (hashing : Hashing) (event : Response) :
    Outcome ResponseResult :=
  match engine.slots[event.entity]? with
  | none => ⟨engine, .error (.unknownEntity event.entity), []⟩
  | some current =>
    match Record.respond hashing current event with
    | .error error => engine.reject event.entity .respond error
    | .ok responded => engine.keepResponded event responded

end Engine

/-- The outcome of an operation, its span reported first. -/
def Outcome.within {α : Type} (outcome : Outcome α) (span : LogEntry) : Outcome α :=
  { outcome with log := span :: outcome.log }

namespace Engine

/-- Takes in a feedback. -/
def ingest (engine : Engine) (hashing : Hashing) (event : Feedback) : Outcome UpdateResult :=
  (engine.applyIngest hashing event).within (.eventSpan .ingest event.entity event.sequence)

/-- Carries out a revocation. -/
def revoke (engine : Engine) (hashing : Hashing) (event : Revocation) : Outcome RevokeResult :=
  (engine.applyRevoke hashing event).within (.eventSpan .revoke event.entity event.sequence)

/-- Takes in a response. -/
def respond (engine : Engine) (hashing : Hashing) (event : Response) : Outcome ResponseResult :=
  (engine.applyRespond hashing event).within (.eventSpan .respond event.entity event.sequence)

/-- Puts a configuration in force, unless it is out of bounds. -/
def updateConfig (engine : Engine) (config : Config) : Outcome Unit :=
  match config.check with
  | .error error => ⟨engine, .error error, [.configRejected error]⟩
  | .ok () => ⟨{ engine with config }, .ok (), [.configUpdated]⟩

end Engine

end Reputation
