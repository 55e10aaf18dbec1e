/-
**Moving records between engine and archive.**

Persisting stores every record of the engine over the rows of the same entities. Restoring puts
every stored record into the engine over the records of the same entities, but only if all rows
can be read.
-/

import Reputation.Archive.Migration
import Reputation.Engine.Basic

namespace Reputation

/-- Stores all records of an engine; the answer is their number. -/
def Database.persist (database : Database) (engine : Engine) (stamp : String) :
    ArchiveOutcome Nat :=
  let records := engine.records
  match database.saveAll records stamp with
  | .error error => ⟨database, .error error, []⟩
  | .ok stored => ⟨stored, .ok records.length, [.persisted records.length]⟩

/-- Puts some records into an engine, each over any other one of its entity. -/
def Engine.importAll (engine : Engine) (records : List Record) : Engine :=
  records.foldl Engine.importRecord engine

/-- Takes all stored records into an engine; the answer is their number. -/
def Engine.restore (engine : Engine) (database : Database) : Outcome Nat :=
  match database.loadAll with
  | .error error => ⟨engine, .error error, []⟩
  | .ok records =>
    ⟨engine.importAll records, .ok records.length, [.restored records.length]⟩

end Reputation
