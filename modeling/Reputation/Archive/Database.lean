/-
**The archive.**

The archive holds the bytes of records in rows, one row to an entity. A row is found by the number
of its entity, taken as a 64-bit number with sign; lists of rows are by the number without sign. A
table that was never made holds nothing and cannot be asked for anything.

A row is read back as the record of its entity. It is corrupt if its bytes are no record, or the
record of another entity.
-/

import Std.Data.ExtTreeMap
import Reputation.Record.Codec

namespace Reputation

/-- A stored row. -/
structure Row where
  /-- The version of the layout, kept beside the bytes and never looked at. -/
  version : UInt8
  bytes : List UInt8
  /-- When the row was written, in words. -/
  stamp : String
deriving DecidableEq, Repr

/-- The rows by the number of their entity, with sign. -/
abbrev RowTable := Std.ExtTreeMap Int64 Row

/-- The tables of the archive. -/
structure Database where
  /-- The schema versions that were applied, none if there is no such table. -/
  versions : Option (List UInt32) := none
  /-- The rows, none if there is no such table. -/
  rows : Option RowTable := none

/-- The number of an entity with sign. -/
def EntityId.key (entity : EntityId) : Int64 := entity.value.toInt64

/-- The entity of a number with sign. -/
def EntityId.ofKey (key : Int64) : EntityId := ⟨key.toUInt64⟩

/-- What a corrupt row is reported as. -/
def Row.corrupt (owner : EntityId) (fault : RowFault) : Error := .archive (.corrupt owner fault)

/-- The record in the row of an entity. -/
def Row.record (row : Row) (owner : EntityId) : Except Error Record :=
  match Record.decode row.bytes with
  | .error (.codec fault) => .error (corrupt owner (.unreadable fault))
  | .error error => .error error
  | .ok record =>
    if record.entity = owner then .ok record else .error (corrupt owner (.foreign record.entity))

/-- The row of a record. -/
def Record.row (record : Record) (stamp : String) : Row where
  version := recordVersion
  bytes := record.encode
  stamp

namespace Database

/-- The rows, if their table is there. -/
def table (database : Database) : Except Error RowTable :=
  match database.rows with
  | some rows => .ok rows
  | none => .error (.archive (.missingTable "entity_records"))

/-- The row of an entity. -/
def row? (database : Database) (entity : EntityId) : Except Error (Option Row) := do
  return (← database.table)[entity.key]?

/-- Puts a row in place of any other one of its entity. -/
def putRow (database : Database) (entity : EntityId) (row : Row) : Except Error Database := do
  return { database with rows := some ((← database.table).insert entity.key row) }

/-- The rows by the number of their entity. -/
def allRows (database : Database) : Except Error (List (EntityId × Row)) := do
  let rows := (← database.table).toList.map fun item => (EntityId.ofKey item.1, item.2)
  return rows.mergeSort fun first second => first.1.value ≤ second.1.value

/-- The number of rows. -/
def count (database : Database) : Except Error Nat := do
  return (← database.table).size

/-- Removes the row of an entity; the answer is whether there was one. -/
def delete (database : Database) (entity : EntityId) : Except Error (Database × Bool) := do
  let rows ← database.table
  return ({ database with rows := some (rows.erase entity.key) }, rows.contains entity.key)

/-- Stores a record. -/
def save (database : Database) (record : Record) (stamp : String) : Except Error Database :=
  database.putRow record.entity (record.row stamp)

/-- Stores some records, all of them or none. -/
def saveAll (database : Database) (records : List Record) (stamp : String) :
    Except Error Database :=
  records.foldlM (fun database record => database.save record stamp) database

/-- The stored record of an entity. -/
def load (database : Database) (entity : EntityId) : Except Error (Option Record) := do
  match ← database.row? entity with
  | none => return none
  | some row => return some (← row.record entity)

/-- All stored records by entity, unless a row is corrupt. -/
def loadAll (database : Database) : Except Error (List Record) := do
  (← database.allRows).mapM fun item => item.2.record item.1

end Database

end Reputation
