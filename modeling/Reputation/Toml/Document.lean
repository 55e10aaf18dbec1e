/-
**Reading a TOML text.**

A text is a sequence of lines: blank ones and comments, headers that open a table, and values under
a key. A value that does not follow a header goes into the outermost table. Lists may go over
several lines and end with a comma; tables in braces may not.

`read?` gives the outermost table of a text, or nothing if the text is not TOML.
-/

import Reputation.Toml.Scalar
import Reputation.Toml.Table

namespace Reputation.Toml

/-- The items of a list, after its opening bracket. Before an item the list may end. -/
def readItems (readValue : Reader Datum) : (fuel : Nat) → Reader (List Datum)
  | 0, _ => none
  | fuel + 1, text =>
    match skipFiller text.length text with
    | ']' :: rest => some ([], rest)
    | text => do
      let (item, rest) ← readValue text
      match skipFiller rest.length rest with
      | ',' :: rest =>
        let (items, rest) ← readItems readValue fuel rest
        return (item :: items, rest)
      | ']' :: rest => return ([item], rest)
      | _ => none

/-- The entries of a table in braces, from its first key on. -/
def readPairs (readValue : Reader Datum) : (fuel : Nat) → Entries → Reader Entries
  | 0, _, _ => none
  | fuel + 1, entries, text => do
    let (keys, rest) ← readKey text
    let ('=', rest) ← rest.head?.map (·, rest.tail) | none
    let (datum, rest) ← readValue (skipBlanks rest)
    let entries ← addValue? entries keys.dropLast (keys.getLastD "") datum
    match skipBlanks rest with
    | ',' :: rest => readPairs readValue fuel entries rest
    | '}' :: rest => return (entries, rest)
    | _ => none

/-- A value in which lists and tables are nested at most `depth` deep. -/
def readValue : (depth : Nat) → Reader Datum
  | 0, text =>
    match text with
    | '[' :: _ | '{' :: _ => none
    | '"' :: _ | '\'' :: _ => (readString text).map fun (content, rest) => (.text content, rest)
    | _ => readWord text
  | depth + 1, text =>
    match text with
    | '[' :: rest =>
      (readItems (readValue depth) text.length rest).map fun (items, rest) =>
        (.list false items, rest)
    | '{' :: rest =>
      match skipBlanks rest with
      | '}' :: rest => some (.table [], rest)
      | rest =>
        (readPairs (readValue depth) text.length [] rest).map fun (entries, rest) =>
          (.table (datumOfEntries entries), rest)
    | '"' :: _ | '\'' :: _ => (readString text).map fun (content, rest) => (.text content, rest)
    | _ => readWord text

/-- What was read of a text so far: the outermost table, and the path of the table that was opened
last. -/
structure Document where
  entries : Entries := []
  current : List String := []

namespace Document

/-- A text after the given closing characters. -/
def dropClosing? (closing text : List Char) : Option (List Char) :=
  if closing.isPrefixOf text then some (text.drop closing.length) else none

/-- Opens the table of a header, the text being the header after its opening brackets. -/
def readHeader (document : Document) (listed : Bool) (text : List Char) :
    Option (Document × List Char) := do
  let (keys, rest) ← readKey text
  let rest ← dropClosing? (if listed then [']', ']'] else [']']) rest
  let rest ← lineEnd? rest
  let openAt := if listed then openListed? else openTable?
  let entries ← openAt document.entries keys.dropLast (keys.getLastD "")
  return (⟨entries, keys⟩, rest)

/-- Adds the value of a line to the table that was opened last. -/
def readEntry (document : Document) (text : List Char) : Option (Document × List Char) := do
  let (keys, rest) ← readKey text
  let ('=', rest) ← rest.head?.map (·, rest.tail) | none
  let (datum, rest) ← readValue (depthLimit - 1) (skipBlanks rest)
  let rest ← lineEnd? rest
  let entries ← changeOpen?
    (fun inner => addValue? inner keys.dropLast (keys.getLastD "") datum)
    document.entries document.current
  return ({ document with entries }, rest)

/-- Takes in the rest of a text, in at most `fuel` lines. -/
def readLines : (fuel : Nat) → Document → List Char → Option Document
  | 0, _, _ => none
  | fuel + 1, document, text =>
    match skipBlanks text with
    | [] => some document
    | '[' :: '[' :: rest => do
      let (document, rest) ← document.readHeader true rest
      readLines fuel document rest
    | '[' :: rest => do
      let (document, rest) ← document.readHeader false rest
      readLines fuel document rest
    | text =>
      match lineEnd? text with
      | some rest => readLines fuel document rest
      | none => do
        let (document, rest) ← document.readEntry text
        readLines fuel document rest

end Document

/-- The outermost table of a text. A byte order mark at the front is skipped. -/
def read? (text : String) : Option Datum :=
  let text := match text.toList with
    | '\uFEFF' :: rest => rest
    | text => text
  (Document.readLines (text.length + 1) {} text).map fun document =>
    .table (datumOfEntries document.entries)

end Reputation.Toml
