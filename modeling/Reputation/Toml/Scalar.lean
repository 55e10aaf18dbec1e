/-
**Numbers, truth values and times of a TOML text.**

A value that is no string, list or table is one word. The word decides what it is: no word is of
two kinds.

Digits may be grouped by single underscores between them. An integer has to fit into 64 bits with
sign; without sign it may be given in hexadecimal, octal or binary digits. A number with a fraction
or an exponent is kept only as such, but one that would round to infinity is refused. A time has to
exist in the calendar; nothing that is read here holds times, so a time is kept as an empty table.
-/

import Reputation.Form.Datum
import Reputation.Toml.Scan

namespace Reputation.Toml

/-- Characters of a word. -/
def isWordChar (c : Char) : Bool :=
  c.isAlphanum || c = '_' || c = '+' || c = '-' || c = '.' || c = ':'

/-- The digits of a group without the underscores between them. -/
def ungroup? (isDigit : Char → Bool) : List Char → Option (List Char)
  | [c] => if isDigit c then some [c] else none
  | c :: '_' :: rest => if isDigit c then (ungroup? isDigit rest).map (c :: ·) else none
  | c :: rest => if isDigit c then (ungroup? isDigit rest).map (c :: ·) else none
  | [] => none

/-- Decimal digits that start with a zero only if there is no other digit. -/
def decimal? (word : List Char) : Option (List Char) := do
  let digits ← ungroup? Char.isDigit word
  if digits.length = 1 || digits.head? ≠ some '0' then some digits else none

/-- The sign of a word, and the word without it. -/
def splitSign : List Char → Bool × List Char
  | '+' :: rest => (false, rest)
  | '-' :: rest => (true, rest)
  | word => (false, word)

/-- An integer that fits into 64 bits with sign. -/
def fitting? (value : Int) : Option Datum :=
  if -(2 ^ 63) ≤ value ∧ value < 2 ^ 63 then some (.int value) else none

/-- An integer in digits of a base that is not ten. -/
def radix? (base : Nat) (word : List Char) : Option Datum := do
  let digits ← ungroup? (fun c => (hexValue? c).any (· < base)) word
  fitting? (← numberOf? base digits)

/-- An integer. -/
def integer? : List Char → Option Datum
  | '0' :: 'x' :: word => radix? 16 word
  | '0' :: 'o' :: word => radix? 8 word
  | '0' :: 'b' :: word => radix? 2 word
  | word => do
    let (negative, word) := splitSign word
    let value ← numberOf? 10 (← decimal? word)
    fitting? (if negative then -value else value)

/-- The exponent of a number, after the letter. -/
def exponent? (word : List Char) : Option Int := do
  let (negative, word) := splitSign word
  let value ← numberOf? 10 (← ungroup? Char.isDigit word)
  some (if negative then -value else value)

/-- Cuts a word in two before the first character of a kind. -/
def cutAt (isCut : Char → Bool) (word : List Char) : List Char × List Char :=
  word.span (!isCut ·)

/-- A number with a fraction or an exponent. -/
def real? (word : List Char) : Option Datum := do
  let (negative, word) := splitSign word
  if word = ['i', 'n', 'f'] || word = ['n', 'a', 'n'] then return .real
  let (digits, power) := cutAt (fun c => c = 'e' || c = 'E') word
  let (whole, fraction) := cutAt (· = '.') digits
  if power.isEmpty && fraction.isEmpty then none
  let wholeDigits ← decimal? whole
  let fractionDigits ←
    if fraction.isEmpty then some [] else ungroup? Char.isDigit (fraction.drop 1)
  let exponent ← if power.isEmpty then some 0 else exponent? (power.drop 1)
  let mantissa ← numberOf? 10 (wholeDigits ++ fractionDigits)
  if negative || staysFinite mantissa (exponent - fractionDigits.length) then some .real else none

/-- A number of exactly `count` digits. -/
def fixedDigits? (count : Nat) (digits : List Char) : Option Nat :=
  if digits.length = count && digits.all Char.isDigit then numberOf? 10 digits else none

/-- The number of days of a month. -/
def daysOf (year month : Nat) : Nat :=
  if month = 2 then if year % 4 = 0 && (year % 100 ≠ 0 || year % 400 = 0) then 29 else 28
  else if month = 4 || month = 6 || month = 9 || month = 11 then 30
  else 31

/-- Whether ten characters are a date. -/
def isDate : List Char → Bool
  | [y, e, a, r, '-', m, o, '-', d, t] =>
    match fixedDigits? 4 [y, e, a, r], fixedDigits? 2 [m, o], fixedDigits? 2 [d, t] with
    | some year, some month, some day =>
      1 ≤ month && month ≤ 12 && 1 ≤ day && day ≤ daysOf year month
    | _, _, _ => false
  | _ => false

/-- Whether two digits are a number of at most `limit`. -/
def isUpTo (limit : Nat) (digits : List Char) : Bool := (fixedDigits? 2 digits).any (· ≤ limit)

/-- Whether a word is empty or a distance from universal time. -/
def isOffset : List Char → Bool
  | [] | ['Z'] | ['z'] => true
  | [sign, h, o, ':', m, i] =>
    (sign = '+' || sign = '-') && isUpTo 23 [h, o] && isUpTo 59 [m, i]
  | _ => false

/-- Whether a word is the rest of a time after its seconds: a fraction of a second, and then what
`isEnd` accepts. -/
def isTimeTail (isEnd : List Char → Bool) : List Char → Bool
  | '.' :: word => (word.head?.any Char.isDigit) && isEnd (word.dropWhile Char.isDigit)
  | word => isEnd word

/-- Whether a word is a time of day, and then what `isEnd` accepts. -/
def isTime (isEnd : List Char → Bool) : List Char → Bool
  | h :: o :: ':' :: m :: i :: ':' :: s :: e :: word =>
    isUpTo 23 [h, o] && isUpTo 59 [m, i] && isUpTo 60 [s, e] && isTimeTail isEnd word
  | _ => false

/-- Whether a word is a date, a time of day, or both. -/
def isMoment (word : List Char) : Bool :=
  isTime List.isEmpty word ||
    isDate (word.take 10) &&
      match word.drop 10 with
      | [] => true
      | c :: time => (c = 'T' || c = 't' || c = ' ') && isTime isOffset time

/-- The value of a word. -/
def wordValue? (word : List Char) : Option Datum :=
  if word = ['t', 'r', 'u', 'e'] then some (.bool true)
  else if word = ['f', 'a', 'l', 's', 'e'] then some (.bool false)
  else if isMoment word then some (.table [])
  else (integer? word).or (real? word)

/-- A word from the front of a text. A date may be followed by one blank and a time of day. -/
def splitWord (text : List Char) : List Char × List Char :=
  let (word, rest) := text.span isWordChar
  match rest with
  | ' ' :: c :: more =>
    if isDate word && c.isDigit then
      let (time, rest) := (c :: more).span isWordChar
      (word ++ ' ' :: time, rest)
    else (word, rest)
  | _ => (word, rest)

/-- A value that is one word. -/
def readWord (text : List Char) : Option (Datum × List Char) :=
  let (word, rest) := splitWord text
  (wordValue? word).map (·, rest)

end Reputation.Toml
