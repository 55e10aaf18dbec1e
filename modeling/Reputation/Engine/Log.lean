/-
**The log.**

What the engine and the archive report while they work: a span at the start of each operation on
events, a note when a tier or the configuration changes or rows move in or out of the archive, and
a warning when something is refused. A span has a name; a note or a warning has a level, and its
text is the field `message`.
-/

import Reputation.Error

namespace Reputation

/-- The operations on events. -/
inductive Operation where
  | ingest
  | revoke
  | respond
deriving DecidableEq, Repr

/-- What is reported. -/
inductive LogEntry where
  | eventSpan (operation : Operation) (entity : EntityId) (sequence : UInt64)
  | batchSpan (events entities : Nat)
  | tierPromoted (entity : EntityId) (source target : Tier)
  | tierDemoted (entity : EntityId) (source target : Tier)
  | inputRejected (entity : EntityId) (operation : Operation) (error : Error)
  | configUpdated
  | configRejected (error : Error)
  | migrated (version : Nat)
  | persisted (records : Nat)
  | restored (records : Nat)
deriving DecidableEq, Repr

/-- How serious a report is. -/
inductive LogLevel where
  | info
  | warn
deriving DecidableEq, Repr

/-- What the head of a report is: the name of a span, or the level of an event. -/
inductive LogHead where
  | span (name : String)
  | event (level : LogLevel)
deriving DecidableEq, Repr

/-- The name of an operation. -/
def Operation.name : Operation → String
  | .ingest => "ingest"
  | .revoke => "revoke"
  | .respond => "respond"

/-- The name of the span of an operation. -/
def Operation.spanName : Operation → String
  | .ingest => "vouch.ingest"
  | .revoke => "vouch.revoke"
  | .respond => "vouch.response"

/-- The name of the span of a batch. -/
def batchSpanName : String := "vouch.batch"

/-- The names of all spans. -/
def spanNames : List String :=
  [Operation.ingest, .revoke, .respond].map Operation.spanName ++ [batchSpanName]

/-- The name of a level. -/
def LogLevel.name : LogLevel → String
  | .info => "INFO"
  | .warn => "WARN"

namespace LogEntry

/-- The head of a report. -/
def head : LogEntry → LogHead
  | eventSpan operation _ _ => .span operation.spanName
  | batchSpan _ _ => .span batchSpanName
  | inputRejected _ _ _ | configRejected _ => .event .warn
  | _ => .event .info

/-- The fields of a report, each in words. -/
def fields : LogEntry → List (String × String)
  | eventSpan _ entity sequence =>
    [("entity", entity.text), ("sequence", toString sequence.toNat)]
  | batchSpan events entities => [("events", toString events), ("entities", toString entities)]
  | tierPromoted entity source target =>
    [("message", "tier promoted"), ("event", "tier_promoted"), ("entity", entity.text),
      ("from", source.name), ("to", target.name)]
  | tierDemoted entity source target =>
    [("message", "tier demoted"), ("event", "tier_demoted"), ("entity", entity.text),
      ("from", source.name), ("to", target.name)]
  | inputRejected entity operation error =>
    [("message", "input rejected"), ("event", "input_rejected"), ("entity", entity.text),
      ("operation", operation.name), ("error", error.message)]
  | configUpdated => [("message", "config updated"), ("event", "config_updated")]
  | configRejected error =>
    [("message", "config update rejected"), ("event", "config_rejected"),
      ("error", error.message)]
  | migrated version =>
    [("message", "applied schema migration"), ("event", "storage.migrated"),
      ("version", toString version)]
  | persisted records =>
    [("message", "engine persisted"), ("event", "storage.persisted"),
      ("records", toString records)]
  | restored records =>
    [("message", "engine restored"), ("event", "storage.restored"),
      ("records", toString records)]

end LogEntry

end Reputation
