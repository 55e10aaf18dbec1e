/-
**Numbers in texts.**

What the readers of the text formats share: digits in any base up to sixteen, and the question
whether a number in scientific form stays below infinity when it is rounded to 64 bits of floating
point.
-/

import Reputation.Numeric.Power

namespace Reputation

/-- What was read from the front of a text, and the rest of the text. -/
abbrev Reader (α : Type) := List Char → Option (α × List Char)

/-- The value of a hexadecimal digit. -/
def hexValue? (c : Char) : Option Nat :=
  if '0' ≤ c && c ≤ '9' then some (c.toNat - '0'.toNat)
  else if 'a' ≤ c && c ≤ 'f' then some (c.toNat - 'a'.toNat + 10)
  else if 'A' ≤ c && c ≤ 'F' then some (c.toNat - 'A'.toNat + 10)
  else none

/-- The number of some digits in a base, high digits first. -/
def numberOf? (base : Nat) (digits : List Char) : Option Nat :=
  digits.foldlM (fun number c => do
    let digit ← hexValue? c
    if digit < base then some (number * base + digit) else none) 0

/-- The bytes of pairs of lower-case hexadecimal digits. -/
def bytesOfHex? : List Char → Option (List UInt8)
  | [] => some []
  | high :: low :: rest => do
    if high.isUpper || low.isUpper then none
    let byte := UInt8.ofNat ((← hexValue? high) * 16 + (← hexValue? low))
    return byte :: (← bytesOfHex? rest)
  | [_] => none

/-- The least number that rounds to infinity. -/
def realLimit : Nat := (2 ^ 54 - 1) * 2 ^ 970

/-- Whether `mantissa * 10 ^ exponent` stays below the limit. -/
def staysFinite (mantissa : Nat) (exponent : Int) : Bool :=
  let size := (Nat.toDigits 10 mantissa).length + exponent
  if mantissa = 0 || size < 300 then true
  else if 320 < size then false
  else mantissa * 10 ^ exponent.toNat < realLimit * 10 ^ (-exponent).toNat

end Reputation
