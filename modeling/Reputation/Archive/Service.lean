/-
**An engine and its archive.**

A service is an engine that may have an archive open. An archive is kept on disk, where it stays
when it is closed, or in memory, where every opening starts a new one. Opening brings the tables up
to date; if that fails no archive is open.
-/

import Reputation.Archive.Exchange

namespace Reputation

/-- Where the open archive is kept. -/
inductive Place where
  | disk
  | memory (database : Database)

/-- An engine that may have an archive open. -/
structure Service where
  engine : Engine
  /-- The open archive. -/
  place : Option Place := none
  /-- The tables on disk. -/
  disk : Database := {}

namespace Service

/-- The tables of the open archive. -/
def database? (service : Service) : Option Database :=
  service.place.map fun
    | .disk => service.disk
    | .memory database => database

/-- Whether the open archive outlives the service. -/
def isDurable (service : Service) : Bool := service.place matches some .disk

/-- Changes the tables of the open archive. -/
def putDatabase (service : Service) (database : Database) : Service :=
  match service.place with
  | some .disk => { service with disk := database }
  | some (.memory _) => { service with place := some (.memory database) }
  | none => service

/-- Opens the archive on disk. -/
def openDisk (service : Service) : Service × ArchiveOutcome UInt32 :=
  let outcome := service.disk.migrate
  let place := if outcome.answer.toBool then some .disk else none
  ({ service with place, disk := outcome.database }, outcome)

/-- Opens a new archive in memory. -/
def openMemory (service : Service) : Service × ArchiveOutcome UInt32 :=
  let outcome := ({} : Database).migrate
  let place := if outcome.answer.toBool then some (.memory outcome.database) else none
  ({ service with place }, outcome)

end Service

end Reputation
