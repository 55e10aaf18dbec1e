/-
**Writing a JSON text.**

A structured value is written on one line without blanks, members in their order. A number that is
no integer has no value and is written as null.
-/

import Reputation.Form.Datum

namespace Reputation.Json

/-- A character between quotes. -/
def escape : Char → List Char
  | '"' => ['\\', '"']
  | '\\' => ['\\', '\\']
  | '\x08' => ['\\', 'b']
  | '\t' => ['\\', 't']
  | '\n' => ['\\', 'n']
  | '\x0c' => ['\\', 'f']
  | '\r' => ['\\', 'r']
  | c => if c < ' ' then '\\' :: 'u' :: (hexNumber 4 c.toNat).toList else [c]

/-- A text in quotes. -/
def quoted (text : String) : String :=
  "\"" ++ String.ofList (text.toList.flatMap escape) ++ "\""

mutual

/-- The text of a value. -/
def write : Datum → String
  | .null | .real => "null"
  | .bool value => if value then "true" else "false"
  | .int value => toString value
  | .text value => quoted value
  | .list _ items => "[" ++ ",".intercalate (writeItems items) ++ "]"
  | .table members => "\x7b" ++ ",".intercalate (writeMembers members) ++ "\x7d"

/-- The texts of some items. -/
def writeItems : List Datum → List String
  | [] => []
  | item :: rest => write item :: writeItems rest

/-- The texts of some members. -/
def writeMembers : List (String × Datum) → List String
  | [] => []
  | (name, datum) :: rest => (quoted name ++ ":" ++ write datum) :: writeMembers rest

end

end Reputation.Json
