/-
**Schema versions.**

The tables of the archive are made in numbered steps, of which only those not yet applied are run.
An archive with a newer version than any that is known is left alone.
-/

import Reputation.Archive.Database
import Reputation.Engine.Log

namespace Reputation

/-- What came of a call on the archive. -/
structure ArchiveOutcome (α : Type) where
  database : Database
  answer : Except Error α
  log : List LogEntry

namespace Database

/-- The newest version that was applied, zero if there is none. -/
def currentVersion (database : Database) : Except Error UInt32 :=
  match database.versions with
  | none => .error (.archive (.missingTable "schema_version"))
  | some versions => .ok (versions.foldl max 0)

/-- The archive with a table of versions. -/
def withVersions (database : Database) : Database :=
  { database with versions := some (database.versions.getD []) }

/-- Notes that a version was applied. -/
def noteVersion (database : Database) (version : UInt32) : Database :=
  let versions := database.versions.getD []
  { database with
    versions := some (if versions.contains version then versions else versions ++ [version]) }

/-- The first step: the table of rows. -/
def withRows (database : Database) : Database :=
  { database with rows := some (database.rows.getD ∅) }

/-- Brings the tables up to date; the answer is the version reached. -/
def migrate (database : Database) : ArchiveOutcome UInt32 :=
  let database := database.withVersions
  match database.currentVersion with
  | .error error => ⟨database, .error error, []⟩
  | .ok current =>
    if latestSchema < current.toNat then
      ⟨database, .error (.archive (.newerSchema current)), []⟩
    else if current = 0 then
      let database := database.withRows.noteVersion 1
      ⟨database, database.currentVersion, [.migrated 1]⟩
    else ⟨database, database.currentVersion, []⟩

end Database

end Reputation
