/-
**Where the parts of a layout stand.**

A layout that is put together from parts reads each part from the bytes at a fixed position, which
is the sum of the widths before it. What is read of a word type is the number in the bytes there.

* `numberAt`: the number in some of the bytes.
* `Layout.readAt`: what a layout reads at a position; a layout of all the bytes reads at the first.
* `Layout.readAt_beside`, `Layout.get_readAt_vector`: the positions of the parts.
-/

import Reputation.Bytes.Layout

namespace Reputation

/-- The number in `width` bytes from a position on, least significant byte first. -/
def numberAt (bytes : List UInt8) (position width : Nat) : Nat :=
  ofLittleEndian ((bytes.drop position).take width)

theorem numberAt_lt (bytes : List UInt8) (position width : Nat) :
    numberAt bytes position width < 256 ^ width := by
  have short : ((bytes.drop position).take width).length ≤ width := List.length_take_le _ _
  exact Nat.lt_of_lt_of_le (ofLittleEndian_lt _) (Nat.pow_le_pow_right (by decide) short)

namespace Layout

variable {α β : Type} {bytes : List UInt8} {position : Nat}

/-- What a layout reads from a position on. -/
def readAt (layout : Layout α) (bytes : List UInt8) (position : Nat) : α :=
  layout.read ((bytes.drop position).take layout.width)

theorem read_eq_readAt {layout : Layout α} (length : bytes.length = layout.width) :
    layout.read bytes = layout.readAt bytes 0 := by
  rw [readAt, List.drop_zero, ← length, List.take_length]

theorem readAt_via {layout : Layout β} {there : α → β} {back : β → α}
    {back_there : ∀ value, back (there value) = value}
    {there_back : ∀ value, there (back value) = value} :
    (layout.via there back back_there there_back).readAt bytes position =
      back (layout.readAt bytes position) := rfl

theorem readAt_beside (first : Layout α) (second : Layout β) :
    (first.beside second).readAt bytes position =
      (first.readAt bytes position, second.readAt bytes (position + first.width)) := by
  have front : ((bytes.drop position).take (first.width + second.width)).take first.width =
      (bytes.drop position).take first.width := by
    rw [List.take_take, Nat.min_eq_left (Nat.le_add_right _ _)]
  have back : ((bytes.drop position).take (first.width + second.width)).drop first.width =
      (bytes.drop (position + first.width)).take second.width := by
    rw [List.drop_take, Nat.add_sub_cancel_left, List.drop_drop]
  show (first.read _, second.read _) = (first.read _, second.read _)
  rw [← front, ← back]
  rfl

theorem getElem?_readAll (layout : Layout α) {count index : Nat} (inside : index < count)
    (bytes : List UInt8) :
    (layout.readAll count bytes)[index]? =
      some (layout.read ((bytes.drop (index * layout.width)).take layout.width)) := by
  induction index generalizing count bytes with
  | zero =>
    obtain ⟨count, rfl⟩ := Nat.exists_eq_succ_of_ne_zero (Nat.ne_of_gt inside)
    rw [readAll, List.getElem?_cons_zero, Nat.zero_mul, List.drop_zero]
  | succ index ih =>
    obtain ⟨count, rfl⟩ := Nat.exists_eq_succ_of_ne_zero (Nat.ne_zero_of_lt inside)
    rw [readAll, List.getElem?_cons_succ, ih (Nat.lt_of_succ_lt_succ inside), List.drop_drop,
      Nat.succ_mul, Nat.add_comm layout.width]

theorem get_readAt_vector (layout : Layout α) {count : Nat} (index : Fin count) :
    ((layout.vector count).readAt bytes position).get index =
      layout.readAt bytes (position + index.val * layout.width) := by
  have room : layout.width ≤ count * layout.width - index.val * layout.width := by
    have whole := Nat.mul_le_mul_right layout.width (Nat.succ_le_of_lt index.isLt)
    rw [Nat.succ_mul] at whole
    omega
  have part : (((bytes.drop position).take (count * layout.width)).drop
        (index.val * layout.width)).take layout.width =
      (bytes.drop (position + index.val * layout.width)).take layout.width := by
    rw [List.drop_take, List.take_take, Nat.min_eq_left room, List.drop_drop]
  have found := getElem?_readAll layout index.isLt
    ((bytes.drop position).take (count * layout.width))
  rw [part] at found
  exact Option.some.inj ((List.getElem?_eq_getElem _).symm.trans found)

theorem toNat_readAt_byte : (byte.readAt bytes position).toNat = numberAt bytes position 1 :=
  UInt8.toNat_ofNat_of_lt' (numberAt_lt bytes position 1)

theorem toNat_readAt_word16 : (word16.readAt bytes position).toNat = numberAt bytes position 2 :=
  UInt16.toNat_ofNat_of_lt' (numberAt_lt bytes position 2)

theorem toNat_readAt_word32 : (word32.readAt bytes position).toNat = numberAt bytes position 4 :=
  UInt32.toNat_ofNat_of_lt' (numberAt_lt bytes position 4)

theorem toNat_readAt_word64 : (word64.readAt bytes position).toNat = numberAt bytes position 8 :=
  UInt64.toNat_ofNat_of_lt' (numberAt_lt bytes position 8)

end Layout

end Reputation
