/-
**Fixed-width layouts.**

A layout says how a value is laid out in a fixed number of bytes. Every string of that many bytes
is the layout of exactly one value, so writing and reading are inverse to each other. Layouts are
put together from the layouts of parts, one beside the other, and every layout carries the proof
that it loses nothing.
-/

import Reputation.Hash.Basic

namespace Reputation

/-- A way to lay out a value in a fixed number of bytes. -/
structure Layout (α : Type) where
  /-- The number of bytes. -/
  width : Nat
  /-- The bytes of a value. -/
  write : α → List UInt8
  /-- The value of some bytes. -/
  read : List UInt8 → α
  length_write : ∀ value, (write value).length = width
  read_write : ∀ value, read (write value) = value
  write_read : ∀ bytes, bytes.length = width → write (read bytes) = bytes

namespace Layout

/-- A number in a word type, least significant byte first. -/
def word {α : Type} (width : Nat) (toNat : α → Nat) (ofNat : Nat → α)
    (toNat_lt : ∀ value, toNat value < 256 ^ width)
    (ofNat_toNat : ∀ value, ofNat (toNat value) = value)
    (toNat_ofNat : ∀ number, number < 256 ^ width → toNat (ofNat number) = number) :
    Layout α where
  width
  write value := littleEndian width (toNat value)
  read bytes := ofNat (ofLittleEndian bytes)
  length_write value := length_littleEndian width (toNat value)
  read_write value := by rw [ofLittleEndian_littleEndian (toNat_lt value), ofNat_toNat]
  write_read bytes length := by
    have small := ofLittleEndian_lt bytes
    rw [length] at small
    rw [toNat_ofNat _ small, ← length, littleEndian_ofLittleEndian]

/-- A byte. -/
def byte : Layout UInt8 :=
  word 1 UInt8.toNat UInt8.ofNat UInt8.toNat_lt (fun _ => UInt8.ofNat_toNat)
    fun _ small => UInt8.toNat_ofNat_of_lt' small

/-- A word of two bytes. -/
def word16 : Layout UInt16 :=
  word 2 UInt16.toNat UInt16.ofNat UInt16.toNat_lt (fun _ => UInt16.ofNat_toNat)
    fun _ small => UInt16.toNat_ofNat_of_lt' small

/-- A word of four bytes. -/
def word32 : Layout UInt32 :=
  word 4 UInt32.toNat UInt32.ofNat UInt32.toNat_lt (fun _ => UInt32.ofNat_toNat)
    fun _ small => UInt32.toNat_ofNat_of_lt' small

/-- A word of eight bytes. -/
def word64 : Layout UInt64 :=
  word 8 UInt64.toNat UInt64.ofNat UInt64.toNat_lt (fun _ => UInt64.ofNat_toNat)
    fun _ small => UInt64.toNat_ofNat_of_lt' small

/-- One value beside another. -/
def beside {α β : Type} (first : Layout α) (second : Layout β) : Layout (α × β) where
  width := first.width + second.width
  write value := first.write value.1 ++ second.write value.2
  read bytes := (first.read (bytes.take first.width), second.read (bytes.drop first.width))
  length_write value := by rw [List.length_append, first.length_write, second.length_write]
  read_write value := by
    have length := first.length_write value.1
    rw [List.take_left' length, List.drop_left' length, first.read_write, second.read_write]
  write_read bytes length := by
    rw [first.write_read, second.write_read, List.take_append_drop]
    · rw [List.length_drop, length, Nat.add_sub_cancel_left]
    · rw [List.length_take, length]
      omega

/-- A value shown as another one. -/
def via {α β : Type} (layout : Layout β) (there : α → β) (back : β → α)
    (back_there : ∀ value, back (there value) = value)
    (there_back : ∀ value, there (back value) = value) : Layout α where
  width := layout.width
  write value := layout.write (there value)
  read bytes := back (layout.read bytes)
  length_write value := layout.length_write (there value)
  read_write value := by rw [layout.read_write, back_there]
  write_read bytes length := by rw [there_back, layout.write_read bytes length]

/-- The bytes of a list of values. -/
def writeAll {α : Type} (layout : Layout α) (values : List α) : List UInt8 :=
  values.flatMap layout.write

/-- A number of values from the front of some bytes. -/
def readAll {α : Type} (layout : Layout α) : Nat → List UInt8 → List α
  | 0, _ => []
  | count + 1, bytes =>
    layout.read (bytes.take layout.width) :: layout.readAll count (bytes.drop layout.width)

theorem length_writeAll {α : Type} (layout : Layout α) (values : List α) :
    (layout.writeAll values).length = values.length * layout.width := by
  induction values with
  | nil => simp [writeAll]
  | cons value rest ih =>
    simp only [writeAll, List.flatMap_cons, List.length_append, layout.length_write] at ih ⊢
    rw [ih, List.length_cons, Nat.succ_mul, Nat.add_comm]

theorem length_readAll {α : Type} (layout : Layout α) (count : Nat) (bytes : List UInt8) :
    (layout.readAll count bytes).length = count := by
  induction count generalizing bytes with
  | zero => rfl
  | succ count ih => rw [readAll, List.length_cons, ih]

theorem readAll_writeAll {α : Type} (layout : Layout α) (values : List α) :
    layout.readAll values.length (layout.writeAll values) = values := by
  induction values with
  | nil => rfl
  | cons value rest ih =>
    have length := layout.length_write value
    simp only [writeAll, List.flatMap_cons, List.length_cons, readAll] at ih ⊢
    rw [List.take_left' length, List.drop_left' length, layout.read_write, ih]

theorem writeAll_readAll {α : Type} (layout : Layout α) (count : Nat) (bytes : List UInt8)
    (length : bytes.length = count * layout.width) :
    layout.writeAll (layout.readAll count bytes) = bytes := by
  induction count generalizing bytes with
  | zero =>
    rw [Nat.zero_mul] at length
    simp [readAll, writeAll, List.length_eq_zero_iff.mp length]
  | succ count ih =>
    rw [Nat.succ_mul] at length
    have tail : (bytes.drop layout.width).length = count * layout.width := by
      rw [List.length_drop, length, Nat.add_sub_cancel]
    have head : (bytes.take layout.width).length = layout.width := by
      rw [List.length_take, length]
      omega
    have rest := ih _ tail
    simp only [writeAll, readAll, List.flatMap_cons] at rest ⊢
    rw [rest, layout.write_read _ head, List.take_append_drop]

/-- A fixed number of values, one beside the other. -/
def vector {α : Type} (layout : Layout α) (count : Nat) : Layout (Vector α count) where
  width := count * layout.width
  write values := layout.writeAll values.toList
  read bytes := ⟨(layout.readAll count bytes).toArray, by simp [length_readAll]⟩
  length_write values := by rw [length_writeAll, Vector.length_toList]
  read_write values := by
    have all := readAll_writeAll layout values.toList
    rw [Vector.length_toList] at all
    apply Vector.toList_inj.mp
    simpa [Vector.toList] using all
  write_read bytes length := by
    have all := writeAll_readAll layout count bytes length
    simpa [Vector.toList] using all

/-- Thirty-two bytes. -/
def bytes32 : Layout Bytes32 := byte.vector 32

end Layout

end Reputation
