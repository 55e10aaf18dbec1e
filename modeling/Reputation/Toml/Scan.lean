/-
**Characters, blanks, keys and strings of a TOML text.**

A reader takes characters from the front of a text and gives what it read together with the rest,
or nothing if the text does not start with what it reads. Lines end with a line feed, before which
a carriage return may stand; no other control character but the tab is allowed anywhere.

A string in three quotes may go over several lines. Its first line end, if it comes at once, does
not count, and a carriage return before a line end is dropped. A backslash at the end of a line of
such a string takes away all blanks and line ends that follow it.
-/

import Reputation.Text.Number

namespace Reputation.Toml

/-- Blanks inside a line. -/
def isBlank (c : Char) : Bool := c = ' ' || c = '\t'

/-- Characters that a comment, or a string in single quotes, may hold. -/
def isPlain (c : Char) : Bool := c = '\t' || ' ' ≤ c && c ≠ '\x7f'

/-- Characters of a bare key. -/
def isBareKey (c : Char) : Bool := c.isAlphanum || c = '_' || c = '-'

/-- The text after its leading blanks. -/
def skipBlanks (text : List Char) : List Char := text.dropWhile isBlank

/-- The text after a comment that it may start with. -/
def skipComment : List Char → List Char
  | '#' :: rest => rest.dropWhile isPlain
  | text => text

/-- The text after the line end that it starts with. -/
def newline? : List Char → Option (List Char)
  | '\n' :: rest => some rest
  | '\r' :: '\n' :: rest => some rest
  | _ => none

/-- The text after the rest of a line: blanks, a comment, and the end of the line or of the
text. -/
def lineEnd? (text : List Char) : Option (List Char) :=
  match skipComment (skipBlanks text) with
  | [] => some []
  | rest => newline? rest

/-- The text after leading blanks and line ends. -/
def skipSpace : List Char → List Char
  | ' ' :: rest => skipSpace rest
  | '\t' :: rest => skipSpace rest
  | '\n' :: rest => skipSpace rest
  | '\r' :: '\n' :: rest => skipSpace rest
  | text => text

/-- The text after leading blanks, line ends and comments, at most `count` comments being
skipped. -/
def skipFiller : (count : Nat) → List Char → List Char
  | 0, text => skipSpace text
  | count + 1, text =>
    match skipSpace text with
    | '#' :: rest => skipFiller count (rest.dropWhile isPlain)
    | rest => rest

/-- The character whose number is given by some hexadecimal digits. -/
def charOfHex? (digits : List Char) : Option Char := do
  let number ← numberOf? 16 digits
  if number.isValidChar then some (Char.ofNat number) else none

/-- The character that a backslash and a letter stand for. -/
def escaped? : Char → Option Char
  | 'b' => some '\x08'
  | 't' => some '\t'
  | 'n' => some '\n'
  | 'f' => some '\x0c'
  | 'r' => some '\r'
  | '"' => some '"'
  | '\\' => some '\\'
  | _ => none

/-- The character of an escape, after its backslash. -/
def readEscape : Reader Char
  | 'u' :: a :: b :: c :: d :: rest => (charOfHex? [a, b, c, d]).map (·, rest)
  | 'U' :: a :: b :: c :: d :: e :: f :: g :: h :: rest =>
    (charOfHex? [a, b, c, d, e, f, g, h]).map (·, rest)
  | c :: rest => (escaped? c).map (·, rest)
  | [] => none

/-- A character before what was read after it. -/
def prepend (c : Char) (found : List Char × List Char) : List Char × List Char :=
  (c :: found.1, found.2)

/-- A string in double quotes on one line, after its opening quote. -/
def readBasic : (fuel : Nat) → Reader (List Char)
  | 0, _ => none
  | _ + 1, '"' :: rest => some ([], rest)
  | fuel + 1, '\\' :: rest => do
    let (c, rest) ← readEscape rest
    return prepend c (← readBasic fuel rest)
  | fuel + 1, c :: rest => if isPlain c then (readBasic fuel rest).map (prepend c) else none
  | _ + 1, [] => none

/-- A string in single quotes on one line, after its opening quote. -/
def readLiteral : Reader (List Char)
  | '\'' :: rest => some ([], rest)
  | c :: rest => if isPlain c then (readLiteral rest).map (prepend c) else none
  | [] => none

/-- The text after the blanks and line ends that a backslash at the end of a line takes away. -/
def skipFold? (text : List Char) : Option (List Char) :=
  (newline? (skipBlanks text)).map skipSpace

/-- A string in three double quotes, after its opening quotes. Up to two more quotes may stand
before the closing ones and belong to the string. -/
def readBasicLines : (fuel : Nat) → Reader (List Char)
  | 0, _ => none
  | _ + 1, '"' :: '"' :: '"' :: '"' :: '"' :: rest => some (['"', '"'], rest)
  | _ + 1, '"' :: '"' :: '"' :: '"' :: rest => some (['"'], rest)
  | _ + 1, '"' :: '"' :: '"' :: rest => some ([], rest)
  | fuel + 1, '\\' :: rest =>
    match skipFold? rest with
    | some rest => readBasicLines fuel rest
    | none => do
      let (c, rest) ← readEscape rest
      return prepend c (← readBasicLines fuel rest)
  | fuel + 1, '\r' :: '\n' :: rest => (readBasicLines fuel rest).map (prepend '\n')
  | fuel + 1, c :: rest =>
    if isPlain c || c = '\n' then (readBasicLines fuel rest).map (prepend c) else none
  | _ + 1, [] => none

/-- A string in three single quotes, after its opening quotes. Up to two more quotes may stand
before the closing ones and belong to the string. -/
def readLiteralLines : Reader (List Char)
  | '\'' :: '\'' :: '\'' :: '\'' :: '\'' :: rest => some (['\'', '\''], rest)
  | '\'' :: '\'' :: '\'' :: '\'' :: rest => some (['\''], rest)
  | '\'' :: '\'' :: '\'' :: rest => some ([], rest)
  | '\r' :: '\n' :: rest => (readLiteralLines rest).map (prepend '\n')
  | c :: rest => if isPlain c || c = '\n' then (readLiteralLines rest).map (prepend c) else none
  | [] => none

/-- The text after a line end that it may start with. -/
def dropNewline (text : List Char) : List Char := (newline? text).getD text

/-- A string of any kind, from its opening quote on. -/
def readString (text : List Char) : Option (String × List Char) :=
  let found := match text with
    | '"' :: '"' :: '"' :: rest => readBasicLines text.length (dropNewline rest)
    | '"' :: rest => readBasic text.length rest
    | '\'' :: '\'' :: '\'' :: rest => readLiteralLines (dropNewline rest)
    | '\'' :: rest => readLiteral rest
    | _ => none
  found.map fun (content, rest) => (String.ofList content, rest)

/-- A key that is not dotted: bare, or in quotes on one line. -/
def readSimpleKey (text : List Char) : Option (String × List Char) :=
  match text with
  | '"' :: rest => (readBasic text.length rest).map fun (key, rest) => (String.ofList key, rest)
  | '\'' :: rest => (readLiteral rest).map fun (key, rest) => (String.ofList key, rest)
  | _ =>
    match text.takeWhile isBareKey with
    | [] => none
    | key => some (String.ofList key, text.dropWhile isBareKey)

/-- A key of at most `count` parts with dots between them and blanks around them. -/
def readKeyParts : (count : Nat) → Reader (List String)
  | 0, _ => none
  | count + 1, text => do
    let (key, rest) ← readSimpleKey (skipBlanks text)
    match skipBlanks rest with
    | '.' :: rest =>
      let (keys, rest) ← readKeyParts count rest
      return (key :: keys, rest)
    | rest => return ([key], rest)

/-- How deep keys, lists and tables may be nested. -/
def depthLimit : Nat := 80

/-- A dotted key that is not too deep. -/
def readKey : Reader (List String) := readKeyParts (depthLimit - 1)

end Reputation.Toml
