/-
**BLAKE3.**

The input is cut into chunks of 1024 bytes and a chunk into blocks of 64. A block is compressed
with the chaining value of the blocks before it; the chunks are the leaves of a binary tree whose
left halves are as large as a power of two allows, and the root of the tree gives the digest.

A `Node` is a compression that is still to be carried out: its chaining value feeds the parent, or
it is the root and gives the digest. Derivation hashes the name of the purpose first and uses the
result in place of the starting words.
-/

import Reputation.Hash.Basic

namespace Reputation.Blake3

/-- The eight words of a chaining value. -/
abbrev Chaining := Vector UInt32 8

/-- The sixteen words of a message block or of the working state. -/
abbrev Block := Vector UInt32 16

/-- The starting words. -/
def start : Chaining :=
  #v[0x6a09e667, 0xbb67ae85, 0x3c6ef372, 0xa54ff53a, 0x510e527f, 0x9b05688c, 0x1f83d9ab, 0x5be0cd19]

/-- The order in which a round's message words are taken up by the next round. -/
def schedule : Vector (Fin 16) 16 := #v[2, 6, 3, 10, 7, 0, 4, 13, 1, 11, 12, 5, 9, 14, 15, 8]

/-- The marks that tell apart the compressions of one hash. -/
def chunkStart : UInt32 := 1
def chunkEnd : UInt32 := 2
def parentMark : UInt32 := 4
def rootMark : UInt32 := 8
def purposeMark : UInt32 := 32
def materialMark : UInt32 := 64

/-- Rotation of a word to the right. -/
def rotate (word count : UInt32) : UInt32 := word >>> count ||| word <<< (32 - count)

/-- The mixing of four words of the state with two words of the message. -/
def mix (state : Block) (a b c d : Fin 16) (first second : UInt32) : Block :=
  let a₁ := state[a] + state[b] + first
  let d₁ := rotate (state[d] ^^^ a₁) 16
  let c₁ := state[c] + d₁
  let b₁ := rotate (state[b] ^^^ c₁) 12
  let a₂ := a₁ + b₁ + second
  let d₂ := rotate (d₁ ^^^ a₂) 8
  let c₂ := c₁ + d₂
  let b₂ := rotate (b₁ ^^^ c₂) 7
  (((state.set a a₂).set b b₂).set c c₂).set d d₂

/-- One round: the columns of the state are mixed, then its diagonals. -/
def round (state message : Block) : Block :=
  let state := mix state 0 4 8 12 message[0] message[1]
  let state := mix state 1 5 9 13 message[2] message[3]
  let state := mix state 2 6 10 14 message[4] message[5]
  let state := mix state 3 7 11 15 message[6] message[7]
  let state := mix state 0 5 10 15 message[8] message[9]
  let state := mix state 1 6 11 12 message[10] message[11]
  let state := mix state 2 7 8 13 message[12] message[13]
  mix state 3 4 9 14 message[14] message[15]

/-- A number of rounds, the message words taken up in a new order between them. -/
def rounds : Nat → Block → Block → Block
  | 0, state, _ => state
  | count + 1, state, message => rounds count (round state message) (schedule.map (message[·]))

/-- A compression that is still to be carried out. -/
structure Node where
  /-- The chaining value it starts from. -/
  chaining : Chaining
  /-- The words it takes in. -/
  block : Block
  /-- The number of the chunk, zero above the chunks. -/
  counter : UInt64
  /-- The number of bytes taken in. -/
  length : UInt32
  /-- The marks of the compression. -/
  marks : UInt32

/-- The chaining value that a node hands on. -/
def Node.output (node : Node) : Chaining :=
  let low := node.counter.toUInt32
  let high := (node.counter >>> 32).toUInt32
  let state : Block := node.chaining ++
    #v[start[0], start[1], start[2], start[3], low, high, node.length, node.marks]
  let state := rounds 7 state node.block
  Vector.ofFn fun i : Fin 8 => state[i.val] ^^^ state[i.val + 8]

/-- The bytes of a chaining value, each word least significant first. -/
def chainingBytes (words : Chaining) : Digest :=
  Vector.ofFn fun i : Fin 32 => UInt8.ofNat (words[i.val / 4].toNat / 256 ^ (i.val % 4))

/-- The digest given by the root of the tree. -/
def Node.digest (node : Node) : Digest :=
  chainingBytes { node with counter := 0, marks := node.marks ||| rootMark }.output

/-- The words of a block of at most 64 bytes, zero after its end. -/
def blockWords (bytes : List UInt8) : Block :=
  let bytes := bytes.toArray
  let byte (i : Nat) : UInt32 := (bytes[i]?.getD 0).toUInt32
  Vector.ofFn fun i : Fin 16 =>
    byte (4 * i.val) ||| byte (4 * i.val + 1) <<< 8 ||| byte (4 * i.val + 2) <<< 16 |||
      byte (4 * i.val + 3) <<< 24

/-- What stays the same in all compressions of one hash. -/
structure Mode where
  /-- The words that stand in for the chaining value of nothing. -/
  key : Chaining
  /-- The marks that every compression bears. -/
  marks : UInt32

/-- The node of a chunk. The last block is left to be compressed; `first` is borne by the first. -/
def chunk (mode : Mode) (counter : UInt64) (chaining : Chaining) (first : UInt32)
    (bytes : List UInt8) : Node :=
  if bytes.length ≤ 64 then
    ⟨chaining, blockWords bytes, counter, UInt32.ofNat bytes.length,
      mode.marks ||| first ||| chunkEnd⟩
  else
    let block : Node :=
      ⟨chaining, blockWords (bytes.take 64), counter, 64, mode.marks ||| first⟩
    chunk mode counter block.output 0 (bytes.drop 64)
termination_by bytes.length
decreasing_by simp only [List.length_drop]; omega

/-- The number of bytes that go to the left half: the largest power of two of chunks that leaves
something for the right. -/
def leftLength (length : Nat) : Nat := 1024 * 2 ^ ((length - 1) / 1024).log2

theorem leftLength_pos (length : Nat) : 0 < leftLength length := by
  have := Nat.two_pow_pos ((length - 1) / 1024).log2
  unfold leftLength
  omega

theorem leftLength_lt {length : Nat} (large : 1024 < length) : leftLength length < length := by
  have chunks : (length - 1) / 1024 ≠ 0 := by omega
  have := Nat.log2_self_le chunks
  unfold leftLength
  omega

/-- The node of the tree over some bytes, whose first chunk has the given number. -/
def tree (mode : Mode) (counter : UInt64) (bytes : List UInt8) : Node :=
  if large : 1024 < bytes.length then
    let left := leftLength bytes.length
    have := leftLength_pos bytes.length
    have := leftLength_lt large
    let first := (tree mode counter (bytes.take left)).output
    let second := (tree mode (counter + UInt64.ofNat (left / 1024)) (bytes.drop left)).output
    ⟨mode.key, first ++ second, 0, 64, mode.marks ||| parentMark⟩
  else chunk mode counter mode.key chunkStart bytes
termination_by bytes.length
decreasing_by
  · simp only [List.length_take]; omega
  · simp only [List.length_drop]; omega

/-- The digest of a list of bytes. -/
def hash (bytes : List UInt8) : Digest := (tree ⟨start, 0⟩ 0 bytes).digest

/-- The digest of a list of bytes under a named purpose. -/
def derive (purpose : String) (bytes : List UInt8) : Digest :=
  let name : Node :=
    let root := tree ⟨start, purposeMark⟩ 0 purpose.toUTF8.toList
    { root with counter := 0, marks := root.marks ||| rootMark }
  (tree ⟨name.output, materialMark⟩ 0 bytes).digest

end Reputation.Blake3

namespace Reputation

/-- The hash function that the engine runs with. -/
def Hashing.blake3 : Hashing := ⟨Blake3.hash, Blake3.derive⟩

end Reputation
