/-
**Tampering is seen unless the hash gives way.**

Only the head of a chain is stored, and it stands for the whole history of the chain. Nothing keeps
two histories from having one head but the hash function: where they do, the texts that are hashed
when the two heads are rebuilt hold two that differ and have one digest, or one whose digest is that
from which every chain starts. All texts come from the two histories, so whoever holds these can
show how the hash was broken.

* `Leaf.bytes_inj`, `ChainKind.linkBytes_inj`: a leaf is told by its bytes, and a link with its chain
  by its bytes.
* `ChainKind.texts`: the texts that are hashed when a head is rebuilt.
* `Breach`: what two lists of texts show of a hash function that gave way.
* `eq_or_breach`: histories with one head are the same, or they show a breach.
* **`tampering_shows_breach`**: so do different histories on the same or on different chains.
-/

import Mathlib.Data.List.Induction
import Reputation.Event.Chain

namespace Reputation

/-! ### What is hashed -/

theorem littleEndian_inj {width first second : Nat} (smallFirst : first < 256 ^ width)
    (smallSecond : second < 256 ^ width)
    (same : littleEndian width first = littleEndian width second) : first = second := by
  rw [← ofLittleEndian_littleEndian smallFirst, same, ofLittleEndian_littleEndian smallSecond]

theorem word_of_bytes {first second : UInt64}
    (same : littleEndian 8 first.toNat = littleEndian 8 second.toNat) : first = second :=
  UInt64.toNat_inj.mp (littleEndian_inj first.toNat_lt second.toNat_lt same)

/-- **A leaf is told by its bytes.** Every field has a width of its own, so the bytes come apart
from the end. -/
theorem Leaf.bytes_inj {first second : Leaf} (same : first.bytes = second.bytes) :
    first = second := by
  obtain ⟨entity, rater, sequence, content, time⟩ := first
  obtain ⟨otherEntity, otherRater, otherSequence, otherContent, otherTime⟩ := second
  simp only [bytes, EntityId.bytes] at same
  obtain ⟨same, times⟩ := List.append_inj' same (by simp)
  obtain ⟨same, contents⟩ := List.append_inj' same (by simp)
  obtain ⟨same, sequences⟩ := List.append_inj' same (by simp)
  obtain ⟨same, raters⟩ := List.append_inj' same (by simp)
  obtain ⟨-, entities⟩ := List.append_inj' same (by simp)
  have entities := congrArg EntityId.mk (word_of_bytes entities)
  have raters := congrArg RaterId.mk (Vector.toList_inj.mp raters)
  have contents := congrArg Seal.mk (Vector.toList_inj.mp contents)
  rw [Leaf.mk.injEq]
  exact ⟨entities, raters, word_of_bytes sequences, contents, word_of_bytes times⟩

theorem ChainKind.domain_inj {kind other : ChainKind} (same : kind.domain = other.domain) :
    kind = other := by
  cases kind <;> cases other <;> first | rfl | exact absurd same (by decide)

/-- **A link is told by its bytes, and so is its chain.** -/
theorem ChainKind.linkBytes_inj {kind other : ChainKind} {head otherHead leaf otherLeaf : Digest}
    (same : kind.linkBytes head leaf = other.linkBytes otherHead otherLeaf) :
    kind = other ∧ head = otherHead ∧ leaf = otherLeaf := by
  obtain ⟨same, leaves⟩ := List.append_inj' same (by simp)
  obtain ⟨domains, heads⟩ := List.append_inj' same (by simp)
  exact ⟨domain_inj domains, Vector.toList_inj.mp heads, Vector.toList_inj.mp leaves⟩

namespace ChainKind

/-- The head of a chain that holds the given leaves. -/
def headOf (kind : ChainKind) (hashing : Hashing) (leaves : List Leaf) : Digest :=
  kind.replay hashing (leaves.map (·.hash hashing))

/-- The texts that are hashed when leaves are added to a chain with the given head. -/
def textsFrom (kind : ChainKind) (hashing : Hashing) : Digest → List Leaf → List (List UInt8)
  | _, [] => []
  | head, leaf :: rest =>
    leaf.bytes :: kind.linkBytes head (leaf.hash hashing) ::
      textsFrom kind hashing (kind.link hashing head (leaf.hash hashing)) rest

/-- The texts that are hashed when the head of a chain is rebuilt from its leaves. -/
def texts (kind : ChainKind) (hashing : Hashing) (leaves : List Leaf) : List (List UInt8) :=
  kind.textsFrom hashing Digest.zero leaves

variable {kind : ChainKind} {hashing : Hashing} {leaves : List Leaf} {leaf : Leaf}

theorem headOf_concat : kind.headOf hashing (leaves ++ [leaf]) =
    kind.link hashing (kind.headOf hashing leaves) (leaf.hash hashing) := by
  rw [headOf, List.map_append, List.map_singleton, replay_concat, headOf]

theorem textsFrom_concat (head : Digest) :
    kind.textsFrom hashing head (leaves ++ [leaf]) =
      kind.textsFrom hashing head leaves ++ [leaf.bytes,
        kind.linkBytes ((leaves.map (·.hash hashing)).foldl (kind.link hashing) head)
          (leaf.hash hashing)] := by
  induction leaves generalizing head with
  | nil => rfl
  | cons first rest ih => exact congrArg (fun more => _ :: _ :: more) (ih _)

/-- One leaf more, and two more texts are hashed: the leaf and its link. -/
theorem texts_concat : kind.texts hashing (leaves ++ [leaf]) =
    kind.texts hashing leaves ++
      [leaf.bytes, kind.linkBytes (kind.headOf hashing leaves) (leaf.hash hashing)] :=
  textsFrom_concat Digest.zero

theorem leaf_mem_texts : leaf.bytes ∈ kind.texts hashing (leaves ++ [leaf]) := by
  simp [texts_concat]

theorem link_mem_texts : kind.linkBytes (kind.headOf hashing leaves) (leaf.hash hashing) ∈
    kind.texts hashing (leaves ++ [leaf]) := by
  simp [texts_concat]

theorem texts_subset : kind.texts hashing leaves ⊆ kind.texts hashing (leaves ++ [leaf]) := by
  simp [texts_concat]

end ChainKind

/-! ### Breaches -/

/-- What two lists of texts show of a hash function that gave way. -/
inductive Breach (hashing : Hashing) (texts others : List (List UInt8)) : Prop
  /-- Two texts that differ have one digest. -/
  | collision {text other : List UInt8} (among : text ∈ texts) (amongOthers : other ∈ others)
      (differ : text ≠ other) (same : hashing.digest text = hashing.digest other)
  /-- A text has the digest from which every chain starts. -/
  | zero {text : List UInt8} (among : text ∈ texts ∨ text ∈ others)
      (vanishes : hashing.digest text = Digest.zero)

variable {hashing : Hashing} {kind other : ChainKind} {leaves others : List Leaf}

theorem Breach.mono {texts others moreTexts moreOthers : List (List UInt8)}
    (breach : Breach hashing texts others) (more : texts ⊆ moreTexts)
    (moreToo : others ⊆ moreOthers) : Breach hashing moreTexts moreOthers := by
  cases breach with
  | collision among amongOthers differ same =>
    exact .collision (more among) (moreToo amongOthers) differ same
  | zero among vanishes => exact .zero (among.imp (@more _) (@moreToo _)) vanishes

/-- Texts with one digest are the same, or they are a breach. -/
theorem eq_or_breach_of_digest {texts others : List (List UInt8)} {text other : List UInt8}
    (among : text ∈ texts) (amongOthers : other ∈ others)
    (same : hashing.digest text = hashing.digest other) :
    text = other ∨ Breach hashing texts others := by
  by_cases equal : text = other
  · exact .inl equal
  · exact .inr (.collision among amongOthers equal same)

/-- **Histories with one head are the same, or they show a breach.** Walked back from their last
leaves, two histories agree leaf by leaf, or two texts come apart that have one digest. If one of
them ends before the other, a link of the other has the digest from which every chain starts. -/
theorem eq_or_breach (same : kind.headOf hashing leaves = other.headOf hashing others) :
    (leaves = others ∧ (leaves = [] ∨ kind = other)) ∨
      Breach hashing (kind.texts hashing leaves) (other.texts hashing others) := by
  induction leaves using List.reverseRecOn generalizing others with
  | nil =>
    cases others using List.reverseRecOn with
    | nil => exact .inl ⟨rfl, .inl rfl⟩
    | append_singleton others leaf =>
      rw [ChainKind.headOf_concat] at same
      exact .inr (.zero (.inr ChainKind.link_mem_texts) same.symm)
  | append_singleton leaves leaf ih =>
    cases others using List.reverseRecOn with
    | nil =>
      rw [ChainKind.headOf_concat] at same
      exact .inr (.zero (.inl ChainKind.link_mem_texts) same)
    | append_singleton others otherLeaf =>
      rw [ChainKind.headOf_concat, ChainKind.headOf_concat] at same
      rcases eq_or_breach_of_digest ChainKind.link_mem_texts ChainKind.link_mem_texts same with
        links | breach
      · obtain ⟨rfl, heads, hashes⟩ := ChainKind.linkBytes_inj links
        have text : leaf.bytes ∈ kind.texts hashing (leaves ++ [leaf]) := ChainKind.leaf_mem_texts
        have otherText : otherLeaf.bytes ∈ kind.texts hashing (others ++ [otherLeaf]) :=
          ChainKind.leaf_mem_texts
        rcases eq_or_breach_of_digest text otherText hashes with bytes | breach
        · obtain rfl := Leaf.bytes_inj bytes
          rcases ih heads with ⟨rfl, -⟩ | breach
          · exact .inl ⟨rfl, .inr rfl⟩
          · exact .inr (breach.mono ChainKind.texts_subset ChainKind.texts_subset)
        · exact .inr breach
      · exact .inr breach

/-- **Tampering is seen unless the hash gives way.** Take two histories, each with the chain that it
is on, which differ in a field of an event, in the order or the number of their events, or in the
chain, and are not both empty. If replaying them gives one head, then two of the texts that are
hashed on the way differ and have one digest, or one of them has the digest from which every chain
starts. Nothing is asked of the hash function. -/
theorem tampering_shows_breach (hashing : Hashing) {kind other : ChainKind}
    {leaves others : List Leaf} (differ : (kind, leaves) ≠ (other, others))
    (filled : ¬ (leaves = [] ∧ others = []))
    (same : kind.replay hashing (leaves.map (·.hash hashing)) =
      other.replay hashing (others.map (·.hash hashing))) :
    Breach hashing (kind.texts hashing leaves) (other.texts hashing others) := by
  rcases eq_or_breach same with ⟨rfl, rfl | rfl⟩ | breach
  · exact absurd ⟨rfl, rfl⟩ filled
  · exact absurd rfl differ
  · exact breach

/-- A hash function that sees nothing of a text but its length. -/
def sizing : Hashing where
  digest bytes := .ofSeed (UInt64.ofNat bytes.length)
  derive _ bytes := .ofSeed (UInt64.ofNat bytes.length)

/-- The leaf of an event at the given time. -/
def leafAt (time : UInt64) : Leaf := ⟨⟨1⟩, ⟨.ofSeed 2⟩, 3, ⟨.fill 4⟩, time⟩

/-- Two feedbacks that changed places and moved to the chain of responses keep their head under this
hash function, and so they show how it was broken. -/
theorem tampering_shows_breach_moved :
    (ChainKind.feedback, [leafAt 5, leafAt 6]) ≠ (ChainKind.response, [leafAt 6, leafAt 5]) ∧
      ¬ ([leafAt 5, leafAt 6] = [] ∧ [leafAt 6, leafAt 5] = []) ∧
      ChainKind.feedback.replay sizing ([leafAt 5, leafAt 6].map (·.hash sizing)) =
        ChainKind.response.replay sizing ([leafAt 6, leafAt 5].map (·.hash sizing)) ∧
      Breach sizing (ChainKind.feedback.texts sizing [leafAt 5, leafAt 6])
        (ChainKind.response.texts sizing [leafAt 6, leafAt 5]) := by
  have differ : (ChainKind.feedback, [leafAt 5, leafAt 6]) ≠
      (ChainKind.response, [leafAt 6, leafAt 5]) := by decide
  have filled : ¬ ([leafAt 5, leafAt 6] = [] ∧ [leafAt 6, leafAt 5] = []) := by decide
  have same : ChainKind.feedback.replay sizing ([leafAt 5, leafAt 6].map (·.hash sizing)) =
      ChainKind.response.replay sizing ([leafAt 6, leafAt 5].map (·.hash sizing)) := by
    decide +kernel
  exact ⟨differ, filled, same, tampering_shows_breach sizing differ filled same⟩

end Reputation
