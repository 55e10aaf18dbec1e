/-
**The tables of a TOML text.**

While a text is read, a table remembers how it came about, because that decides what may still be
added to it. A table is opened by a header that names it; the tables that lead to it come about
with it and may be opened later. A dotted key makes tables too, and only dotted keys may add
values to these. A value that was given at once, a table in braces included, is closed.

A path that meets a list of tables goes on in the last table of the list.
-/

import Reputation.Form.Datum

namespace Reputation.Toml

/-- How a table came about. -/
inductive Origin where
  /-- Opened by its own header. -/
  | header
  /-- Made on the way to another table. -/
  | path
  /-- Made by a dotted key. -/
  | dotted
deriving DecidableEq, Repr

/-- What a key leads to. -/
inductive Node where
  /-- A value that was given at once. -/
  | value (datum : Datum)
  | table (origin : Origin) (entries : List (String × Node))
  /-- A list of tables, each opened by a header of its own. -/
  | tables (items : List (List (String × Node)))
deriving Repr

/-- The entries of a table. -/
abbrev Entries := List (String × Node)

namespace Entries

/-- What a key leads to. -/
def get? (entries : Entries) (key : String) : Option Node :=
  (entries.find? (·.1 = key)).map (·.2)

/-- Puts a node in place of what a key leads to, or at the end. -/
def put : Entries → String → Node → Entries
  | [], key, node => [(key, node)]
  | (other, found) :: rest, key, node =>
    if other = key then (key, node) :: rest else (other, found) :: put rest key node

/-- Adds a key that is not there yet. -/
def add? (entries : Entries) (key : String) (node : Node) : Option Entries :=
  match entries.get? key with
  | none => some (entries ++ [(key, node)])
  | some _ => none

end Entries

/-- Whether a dotted key may go through a table. -/
def Origin.admitsDotted : Origin → Bool
  | .header => false
  | .path | .dotted => true

/-- Changes the last item of a list. -/
def changeLast? {α : Type} (change : α → Option α) : List α → Option (List α)
  | [] => none
  | [last] => (change last).map ([·])
  | item :: rest => (changeLast? change rest).map (item :: ·)

/-- Follows a path and changes the table at its end. Tables that are missing on the way are made
with the given origin; `change` also gets to know how the last table came about. -/
def descend? (made : Origin) (change : Origin → Entries → Option Entries) :
    (path : List String) → (origin : Origin) → Entries → Option Entries
  | [], origin, entries => change origin entries
  | key :: path, _, entries =>
    match entries.get? key with
    | none => do
      let inner ← descend? made change path made []
      some (entries ++ [(key, .table made inner)])
    | some (.value _) => none
    | some (.table origin inner) =>
      if made = .dotted && !origin.admitsDotted then none
      else do
        let inner ← descend? made change path origin inner
        some (entries.put key (.table origin inner))
    | some (.tables items) => do
      let items ← changeLast? (descend? made change path .header) items
      some (entries.put key (.tables items))

/-- Adds a value under a dotted key. The table that the value goes into has to be made by a dotted
key exactly if it is not the table that the key starts from. -/
def addValue? (entries : Entries) (path : List String) (key : String) (datum : Datum) :
    Option Entries :=
  descend? .dotted
    (fun origin inner =>
      if decide (origin = .dotted) == path.isEmpty then none else inner.add? key (.value datum))
    path .header entries

/-- Opens a table by its header. -/
def openTable? (entries : Entries) (path : List String) (key : String) : Option Entries :=
  descend? .path
    (fun _ inner =>
      match inner.get? key with
      | none => inner.add? key (.table .header [])
      | some (.table .path found) => some (inner.put key (.table .header found))
      | some _ => none)
    path .header entries

/-- Opens one more table of a list of tables by its header. -/
def openListed? (entries : Entries) (path : List String) (key : String) : Option Entries :=
  descend? .path
    (fun _ inner =>
      match inner.get? key with
      | none => inner.add? key (.tables [[]])
      | some (.tables items) => some (inner.put key (.tables (items ++ [[]])))
      | some _ => none)
    path .header entries

/-- Changes the table that a header has opened. -/
def changeOpen? (change : Entries → Option Entries) (entries : Entries) (path : List String) :
    Option Entries :=
  descend? .path (fun _ inner => change inner) path .header entries

mutual

/-- The structured value of a node. -/
def Node.toDatum : Node → Datum
  | .value datum => datum
  | .table _ entries => .table (datumOfEntries entries)
  | .tables items => .list false (datumOfTables items)

/-- The structured values of some entries. -/
def datumOfEntries : List (String × Node) → List (String × Datum)
  | [] => []
  | (key, node) :: rest => (key, node.toDatum) :: datumOfEntries rest

/-- The structured values of some tables. -/
def datumOfTables : List (List (String × Node)) → List Datum
  | [] => []
  | entries :: rest => .table (datumOfEntries entries) :: datumOfTables rest

end

end Reputation.Toml
