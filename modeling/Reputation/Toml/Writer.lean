/-
**Writing a TOML text.**

A table is written as its plain members, one to a line, followed by its tables, each under a header
with its full path. Sections are separated by an empty line, and a section without plain members
has no header of its own if it has tables.

A text is put into double quotes if nothing in it needs an escape; else into single quotes, three
double quotes or three single quotes, whichever is the first that can hold it as it is; else into
double quotes with escapes. A tab between double quotes is always written as an escape.

`write?` gives nothing if an integer is too large for the format.
-/

import Reputation.Form.Datum

namespace Reputation.Toml

/-- What of a text decides how it is quoted. -/
structure Shape where
  /-- Whether there is a control character other than tab and line feed. -/
  hasControl : Bool
  hasBackslash : Bool
  hasNewline : Bool
  /-- The longest run of single quotes. -/
  singleQuotes : Nat
  /-- The longest run of double quotes. -/
  doubleQuotes : Nat

/-- Whether a character is a control character other than tab and line feed. -/
def isControl (c : Char) : Bool := c < ' ' && c ≠ '\t' && c ≠ '\n' || c = '\x7f'

/-- The longest run of a character, the current one being `run` long. -/
def longestRun (quote : Char) : (run : Nat) → List Char → Nat
  | run, [] => run
  | run, c :: rest =>
    if c = quote then longestRun quote (run + 1) rest else max run (longestRun quote 0 rest)

/-- The shape of a text. -/
def Shape.of (text : List Char) : Shape where
  hasControl := text.any isControl
  hasBackslash := text.contains '\\'
  hasNewline := text.contains '\n'
  singleQuotes := longestRun '\'' 0 text
  doubleQuotes := longestRun '"' 0 text

/-- The ways to quote a text. -/
inductive Quoting where
  | basic
  | literal
  | basicLines
  | literalLines
deriving DecidableEq, Repr

/-- The quoting of a text: the first way that needs no escapes, if there is one. -/
def Shape.quoting (shape : Shape) : Quoting :=
  let noEscape := !shape.hasControl && !shape.hasBackslash
  if noEscape && shape.doubleQuotes = 0 && !shape.hasNewline then .basic
  else if !shape.hasControl && shape.singleQuotes = 0 && !shape.hasNewline then .literal
  else if noEscape && shape.doubleQuotes ≤ 2 then .basicLines
  else if !shape.hasControl && shape.singleQuotes ≤ 2 then .literalLines
  else if shape.hasNewline then .basicLines
  else .basic

/-- The escape of a character between double quotes, none if it stands for itself. -/
def escapeOf? : Char → Option String
  | '\x08' => some "\\b"
  | '\t' => some "\\t"
  | '\x0c' => some "\\f"
  | '\r' => some "\\r"
  | '\\' => some "\\\\"
  | c => if isControl c then some ("\\u" ++ (hexNumber 4 c.toNat).toUpper) else none

/-- A text between double quotes on one line. -/
def escapeBasic (text : List Char) : List Char :=
  text.flatMap fun c =>
    if c = '\n' then ['\\', 'n']
    else if c = '"' then ['\\', '"']
    else (escapeOf? c).elim [c] String.toList

/-- A text between three double quotes, `run` quotes having been written just before. No third quote
stands after two others without an escape. -/
def escapeLines : (run : Nat) → List Char → List Char
  | _, [] => []
  | run, c :: rest =>
    if c = '"' then
      if run < 2 then '"' :: escapeLines (run + 1) rest else '\\' :: '"' :: escapeLines 0 rest
    else (escapeOf? c).elim [c] String.toList ++ escapeLines 0 rest

/-- A text in quotes. -/
def quoted (text : List Char) : List Char :=
  let shape := Shape.of text
  let start := if shape.hasNewline then ['\n'] else []
  match shape.quoting with
  | .basic => '"' :: escapeBasic text ++ ['"']
  | .literal => '\'' :: text ++ ['\'']
  | .basicLines => "\"\"\"".toList ++ start ++ escapeLines 0 text ++ "\"\"\"".toList
  | .literalLines => "'''".toList ++ start ++ text ++ "'''".toList

/-- The text of a plain value, none if the format or this writer does not hold it. -/
def scalar? : Datum → Option String
  | .bool value => some (if value then "true" else "false")
  | .int value => if value < 2 ^ 63 then some (toString value) else none
  | .text value => some (String.ofList (quoted value.toList))
  | _ => none

/-- Whether a value is written under a header of its own. -/
def isTable : Datum → Bool
  | .table _ => true
  | _ => false

/-- The lines of the plain members of a table. -/
def plainLines? (members : List (String × Datum)) : Option (List String) :=
  (members.filter (!isTable ·.2)).mapM fun member =>
    (scalar? member.2).map fun text => member.1 ++ " = " ++ text ++ "\n"

mutual

/-- The sections of a table: its own, unless there is nothing to say, and those of its tables. -/
def sections? (path : List String) : Datum → Option (List String)
  | .table members => do
    let lines ← plainLines? members
    let inner ← innerSections? path members
    let header := if path.isEmpty then "" else "[" ++ ".".intercalate path ++ "]\n"
    let own := header ++ String.join lines
    return if lines.isEmpty && (path.isEmpty || !inner.isEmpty) then inner else own :: inner
  | _ => some []

/-- The sections of the tables among some members. -/
def innerSections? (path : List String) : List (String × Datum) → Option (List String)
  | [] => some []
  | (key, datum) :: rest => do
    let first ← sections? (path ++ [key]) datum
    let others ← innerSections? path rest
    return first ++ others

end

/-- The text of a table whose keys are all bare. -/
def write? (datum : Datum) : Option String := (sections? [] datum).map ("\n".intercalate ·)

end Reputation.Toml
