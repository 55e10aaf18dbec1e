/-
**Reading a JSON text.**

A text is one value between blanks. An integer that fits into 64 bits, with or without sign, is
kept; any other number is kept only as such, but one that would round to infinity is refused, and
so are half a pair of surrogates and nesting that is too deep. Of members of one name the last one
counts.
-/

import Reputation.Form.Datum
import Reputation.Text.Number

namespace Reputation.Json

/-- The text after its leading blanks. -/
def skipBlanks (text : List Char) : List Char :=
  text.dropWhile fun c => c = ' ' || c = '\t' || c = '\n' || c = '\r'

/-- The number of four hexadecimal digits. -/
def readUnit : Reader Nat
  | a :: b :: c :: d :: rest => (numberOf? 16 [a, b, c, d]).map (·, rest)
  | _ => none

/-- The character of one or two units, after the letter of the first escape. -/
def readUnits : Reader Char := fun text => do
  let (high, rest) ← readUnit text
  if 0xDC00 ≤ high && high < 0xE000 then none
  if 0xD800 ≤ high && high < 0xDC00 then
    match rest with
    | '\\' :: 'u' :: rest =>
      let (low, rest) ← readUnit rest
      if 0xDC00 ≤ low && low < 0xE000 then
        return (Char.ofNat (0x10000 + (high - 0xD800) * 0x400 + (low - 0xDC00)), rest)
      else none
    | _ => none
  return (Char.ofNat high, rest)

/-- The character that a backslash and a letter stand for. -/
def escaped? : Char → Option Char
  | 'b' => some '\x08'
  | 'f' => some '\x0c'
  | 'n' => some '\n'
  | 'r' => some '\r'
  | 't' => some '\t'
  | '"' => some '"'
  | '\\' => some '\\'
  | '/' => some '/'
  | _ => none

/-- A string, after its opening quote. -/
def readText : (fuel : Nat) → Reader (List Char)
  | 0, _ => none
  | _ + 1, '"' :: rest => some ([], rest)
  | fuel + 1, '\\' :: 'u' :: rest => do
    let (c, rest) ← readUnits rest
    let (text, rest) ← readText fuel rest
    return (c :: text, rest)
  | fuel + 1, '\\' :: letter :: rest => do
    let c ← escaped? letter
    let (text, rest) ← readText fuel rest
    return (c :: text, rest)
  | fuel + 1, c :: rest => do
    if c < ' ' then none
    let (text, rest) ← readText fuel rest
    return (c :: text, rest)
  | _ + 1, [] => none

/-- The digits at the front of a text, of which there is at least one. -/
def readDigits (text : List Char) : Option (List Char × List Char) :=
  match text.takeWhile Char.isDigit with
  | [] => none
  | digits => some (digits, text.dropWhile Char.isDigit)

/-- The digits of a fraction, if there is one. -/
def readFraction : Reader (List Char)
  | '.' :: rest => readDigits rest
  | text => some ([], text)

/-- The exponent of a number, if there is one. -/
def readExponent : Reader (Option Int)
  | c :: rest =>
    if c = 'e' || c = 'E' then do
      let (negative, rest) := match rest with
        | '+' :: rest => (false, rest)
        | '-' :: rest => (true, rest)
        | _ => (false, rest)
      let (digits, rest) ← readDigits rest
      let value : Int ← numberOf? 10 digits
      return (some (if negative then -value else value), rest)
    else some (none, c :: rest)
  | [] => some (none, [])

/-- An integer, if it fits into 64 bits. There is no zero with a sign. -/
def integer? (negative : Bool) (value : Nat) : Option Datum :=
  if negative then if 0 < value ∧ value ≤ 2 ^ 63 then some (.int (-value)) else none
  else if value < 2 ^ 64 then some (.int value)
  else none

/-- A number, after its sign. -/
def readUnsigned (negative : Bool) : Reader Datum := fun text => do
  let (whole, rest) ← readDigits text
  if whole.head? = some '0' && 1 < whole.length then none
  let (fraction, rest) ← readFraction rest
  let (exponent, rest) ← readExponent rest
  let mantissa ← numberOf? 10 (whole ++ fraction)
  let plain := if fraction.isEmpty && exponent.isNone then integer? negative mantissa else none
  match plain with
  | some datum => return (datum, rest)
  | none =>
    if staysFinite mantissa (exponent.getD 0 - fraction.length) then return (.real, rest) else none

/-- A number. -/
def readNumber : Reader Datum
  | '-' :: rest => readUnsigned true rest
  | text => readUnsigned false text

/-- The members of a table with one more at their end, in place of any other one of its name. -/
def putMember (members : List (String × Datum)) (name : String) (datum : Datum) :
    List (String × Datum) :=
  members.filter (·.1 ≠ name) ++ [(name, datum)]

/-- The items of a list, from its first one on. -/
def readItems (readValue : Reader Datum) : (fuel : Nat) → Reader (List Datum)
  | 0, _ => none
  | fuel + 1, text => do
    let (item, rest) ← readValue (skipBlanks text)
    match skipBlanks rest with
    | ',' :: rest =>
      let (items, rest) ← readItems readValue fuel rest
      return (item :: items, rest)
    | ']' :: rest => return ([item], rest)
    | _ => none

/-- The members of a table, from its first one on, in a text of at most `size` characters. -/
def readMembers (size : Nat) (readValue : Reader Datum) :
    (fuel : Nat) → List (String × Datum) → Reader (List (String × Datum))
  | 0, _, _ => none
  | fuel + 1, members, text =>
    match skipBlanks text with
    | '"' :: rest => do
      let (name, rest) ← readText size rest
      match skipBlanks rest with
      | ':' :: rest =>
        let (datum, rest) ← readValue (skipBlanks rest)
        let members := putMember members (String.ofList name) datum
        match skipBlanks rest with
        | ',' :: rest => readMembers size readValue fuel members rest
        | '\x7d' :: rest => return (members, rest)
        | _ => none
      | _ => none
    | _ => none

/-- A value in which lists and tables are nested at most `depth` deep, in a text of at most `size`
characters. -/
def readValue (size : Nat) : (depth : Nat) → Reader Datum
  | depth, text =>
    match text with
    | 'n' :: 'u' :: 'l' :: 'l' :: rest => some (.null, rest)
    | 't' :: 'r' :: 'u' :: 'e' :: rest => some (.bool true, rest)
    | 'f' :: 'a' :: 'l' :: 's' :: 'e' :: rest => some (.bool false, rest)
    | '"' :: rest => (readText size rest).map fun found =>
      (.text (String.ofList found.1), found.2)
    | '[' :: rest =>
      match depth, skipBlanks rest with
      | 0, _ => none
      | _ + 1, ']' :: rest => some (.list true [], rest)
      | depth + 1, rest => (readItems (readValue size depth) size rest).map fun found =>
        (.list true found.1, found.2)
    | '\x7b' :: rest =>
      match depth, skipBlanks rest with
      | 0, _ => none
      | _ + 1, '\x7d' :: rest => some (.table [], rest)
      | depth + 1, rest =>
        (readMembers size (readValue size depth) size [] rest).map fun found =>
          (.table found.1, found.2)
    | _ => readNumber text

/-- How deep lists and tables may be nested. -/
def depthLimit : Nat := 127

/-- The value of a text. -/
def read? (text : String) : Option Datum := do
  let characters := text.toList
  let (datum, rest) ← readValue characters.length depthLimit (skipBlanks characters)
  if (skipBlanks rest).isEmpty then some datum else none

end Reputation.Json
