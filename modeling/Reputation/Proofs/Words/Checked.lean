/-
**Words that do not forgive.**

A word has a fixed number of bits, and an array a fixed number of places. Here an operation that
leaves its word, drops bits, divides by zero or reaches past the end of an array is a fault, and a
computation stops at its first one. A computation without a fault has worked on words as if they
were numbers.

Where an operation is meant to wrap around or to stop at the end of its word, there is nothing to
check: words of the core library wrap around, `saturate` stops at the largest word, and a difference
of numbers stops at zero.

* `Fault`, `Checked`: what can go wrong, and computations that stop at it.
* `Checked.add`, `Checked.sub` and so on: the operations, each with the condition under which it
  gives the number that it stands for.
-/

import Reputation.Numeric.Power

namespace Reputation

/-- What an operation on words or arrays can do wrong. -/
inductive Fault where
  /-- The result is above the largest word. -/
  | overflow
  /-- The result is below zero. -/
  | underflow
  /-- A shift is as wide as its word, or wider. -/
  | shiftTooFar
  /-- A number does not fit the narrower word that it is put into. -/
  | lostBits
  | divisionByZero
  /-- A place is not in its array. -/
  | outOfBounds

/-- A computation that stops at its first fault. -/
abbrev Checked := Except Fault

namespace Checked

variable {Item Result : Type} {size bits first second value amount index count : Nat}

@[simp] theorem ok_bind (value : Item) (rest : Item → Checked Result) :
    (Except.ok value >>= rest) = rest value := rfl

/-- A number that has to fit a word of the given number of bits. -/
def fit (bits value : Nat) (fault : Fault) : Checked Nat :=
  if value < 2 ^ bits then .ok value else .error fault

/-- A sum of words. -/
def add (bits first second : Nat) : Checked Nat := fit bits (first + second) .overflow

/-- A difference of words. -/
def sub (first second : Nat) : Checked Nat :=
  if second ≤ first then .ok (first - second) else .error .underflow

/-- A product of words. -/
def mul (bits first second : Nat) : Checked Nat := fit bits (first * second) .overflow

/-- A quotient of words, rounded down. -/
def div (first second : Nat) : Checked Nat :=
  if second = 0 then .error .divisionByZero else .ok (first / second)

/-- What is left of a word by a division. -/
def rem (first second : Nat) : Checked Nat :=
  if second = 0 then .error .divisionByZero else .ok (first % second)

/-- A word shifted towards its high bits, none of which may get lost. -/
def shl (bits value amount : Nat) : Checked Nat :=
  if amount < bits then fit bits (value * 2 ^ amount) .overflow else .error .shiftTooFar

/-- A word shifted towards its low bits. -/
def shr (bits value amount : Nat) : Checked Nat :=
  if amount < bits then .ok (value / 2 ^ amount) else .error .shiftTooFar

/-- A number put into a word of fewer bits. -/
def narrow (bits value : Nat) : Checked Nat := fit bits value .lostBits

/-- A number put into a byte. -/
def byte (value : Nat) : Checked UInt8 := do
  let narrowed ← narrow 8 value
  return UInt8.ofNat narrowed

/-- The number, or the largest word if the number is above it. -/
def saturate (bits value : Nat) : Nat := min value (2 ^ bits - 1)

/-- A place of an array of the given size. -/
def place (size index : Nat) : Checked (Fin size) :=
  if inside : index < size then .ok ⟨index, inside⟩ else .error .outOfBounds

/-- What stands at a place of an array. -/
def item (items : Vector Item size) (index : Nat) : Checked Item := do
  let place ← place size index
  return items[place]

/-- An array with another item at a place. -/
def put (items : Vector Item size) (index : Nat) (value : Item) : Checked (Vector Item size) := do
  let place ← place size index
  return items.set place value

/-- The items of an array before a place. -/
def front (items : Vector Item size) (count : Nat) : Checked (List Item) :=
  if count ≤ size then .ok (items.toList.take count) else .error .outOfBounds

/-! ### When there is no fault -/

theorem fit_eq {fault : Fault} (fits : value < 2 ^ bits) : fit bits value fault = .ok value :=
  if_pos fits

theorem add_eq (fits : first + second < 2 ^ bits) : add bits first second = .ok (first + second) :=
  fit_eq fits

example : add 8 200 55 = .ok 255 ∧ add 8 200 56 = .error .overflow := ⟨rfl, rfl⟩

theorem sub_eq (fits : second ≤ first) : sub first second = .ok (first - second) := if_pos fits

theorem mul_eq (fits : first * second < 2 ^ bits) : mul bits first second = .ok (first * second) :=
  fit_eq fits

theorem div_eq (positive : 0 < second) : div first second = .ok (first / second) :=
  if_neg (Nat.ne_of_gt positive)

theorem rem_eq (positive : 0 < second) : rem first second = .ok (first % second) :=
  if_neg (Nat.ne_of_gt positive)

theorem shl_eq (near : amount < bits) (fits : value * 2 ^ amount < 2 ^ bits) :
    shl bits value amount = .ok (value * 2 ^ amount) := by
  rw [shl, if_pos near, fit_eq fits]

theorem shr_eq (near : amount < bits) : shr bits value amount = .ok (value / 2 ^ amount) :=
  if_pos near

theorem narrow_eq (fits : value < 2 ^ bits) : narrow bits value = .ok value := fit_eq fits

theorem narrow_min (fits : count < 2 ^ bits) (value : Nat) :
    narrow bits (min value count) = .ok (min value count) :=
  narrow_eq (Nat.lt_of_le_of_lt (Nat.min_le_right _ _) fits)

theorem byte_eq (fits : value < 2 ^ 8) : byte value = .ok (UInt8.ofNat value) := by
  rw [byte, narrow_eq fits]
  rfl

theorem byte_min (fits : count < 2 ^ 8) (value : Nat) :
    byte (min value count) = .ok (UInt8.ofNat (min value count)) :=
  byte_eq (Nat.lt_of_le_of_lt (Nat.min_le_right _ _) fits)

theorem saturate_eq (fits : value < 2 ^ bits) : saturate bits value = value :=
  Nat.min_eq_left (Nat.le_sub_one_of_lt fits)

theorem saturate_lt (bits value : Nat) : saturate bits value < 2 ^ bits :=
  Nat.lt_of_le_of_lt (Nat.min_le_right _ _)
    (Nat.sub_lt (Nat.two_pow_pos bits) Nat.one_pos)

theorem place_eq (inside : index < size) : place size index = .ok ⟨index, inside⟩ := dif_pos inside

@[simp] theorem item_fin (items : Vector Item size) (index : Fin size) :
    item items index = .ok items[index] := by
  rw [item, place_eq index.isLt]
  rfl

theorem put_eq {items : Vector Item size} (inside : index < size) (value : Item) :
    put items index value = .ok (items.set index value) := by
  rw [put, place_eq inside]
  rfl

@[simp] theorem put_fin (items : Vector Item size) (index : Fin size) (value : Item) :
    put items index value = .ok (items.set index value) := put_eq index.isLt value

theorem front_eq {items : Vector Item size} (inside : count ≤ size) :
    front items count = .ok (items.toList.take count) := if_pos inside

end Checked

end Reputation
