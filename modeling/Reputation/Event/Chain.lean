/-
**Digest chains.**

Each entity has three chains, one for each kind of event. An event is hashed into a leaf, and a leaf
is hashed together with the head of its chain into the new head. Only the heads are stored; who
holds the full list of events can rebuild them. Every hash starts with the name of what is hashed,
so that a leaf is never taken for a link, nor a link of one chain for a link of another.
-/

import Reputation.Event.Basic

namespace Reputation

/-- The chains of an entity. -/
inductive ChainKind where
  | feedback
  | revocation
  | response
deriving DecidableEq, Repr

/-- The name of a chain. -/
def ChainKind.name : ChainKind → String
  | .feedback => "feedback"
  | .revocation => "revoke"
  | .response => "response"

/-- The chains, in the order in which they are listed. -/
def ChainKind.all : List ChainKind := [.feedback, .revocation, .response]

/-- What the hash of a link starts with. -/
def ChainKind.domain : ChainKind → List UInt8
  | .feedback => asciiBytes "vouch.chain.feedback.v1"
  | .revocation => asciiBytes "vouch.chain.revoke.v1"
  | .response => asciiBytes "vouch.chain.response.v1"

/-- What of an event is hashed. -/
structure Leaf where
  entity : EntityId
  rater : RaterId
  sequence : UInt64
  content : Seal
  time : UInt64
deriving DecidableEq, Repr

/-- What the hash of a leaf starts with. -/
def Leaf.domain : List UInt8 := asciiBytes "vouch.leaf.v1"

/-- The bytes of a leaf. -/
def Leaf.bytes (leaf : Leaf) : List UInt8 :=
  domain ++ leaf.entity.bytes ++ leaf.rater.bytes.toList ++ littleEndian 8 leaf.sequence.toNat ++
    leaf.content.bytes.toList ++ littleEndian 8 leaf.time.toNat

/-- The hash of a leaf. -/
def Leaf.hash (hashing : Hashing) (leaf : Leaf) : Digest := hashing.digest leaf.bytes

/-- The leaf of a feedback. -/
def Feedback.leaf (event : Feedback) : Leaf :=
  ⟨event.entity, event.rater, event.sequence, event.content, event.time⟩

/-- The leaf of a revocation. -/
def Revocation.leaf (event : Revocation) : Leaf :=
  ⟨event.entity, event.rater, event.sequence, event.claimed, event.time⟩

/-- The leaf of a response. -/
def Response.leaf (event : Response) : Leaf :=
  ⟨event.entity, event.rater, event.sequence, event.content, event.time⟩

/-- The bytes of a link from a head to a leaf. -/
def ChainKind.linkBytes (kind : ChainKind) (head leaf : Digest) : List UInt8 :=
  kind.domain ++ head.toList ++ leaf.toList

/-- The head of a chain after one more leaf. -/
def ChainKind.link (kind : ChainKind) (hashing : Hashing) (head leaf : Digest) : Digest :=
  hashing.digest (kind.linkBytes head leaf)

/-- The head of a chain that holds exactly the given leaves. -/
def ChainKind.replay (kind : ChainKind) (hashing : Hashing) (leaves : List Digest) : Digest :=
  leaves.foldl (kind.link hashing) Digest.zero

/-- The heads of the three chains of an entity. -/
structure Heads where
  feedback : Digest := Digest.zero
  revocation : Digest := Digest.zero
  response : Digest := Digest.zero
deriving DecidableEq, Repr

namespace Heads

/-- The head of one chain. -/
def head (heads : Heads) : ChainKind → Digest
  | .feedback => heads.feedback
  | .revocation => heads.revocation
  | .response => heads.response

/-- The heads with one chain longer by a leaf. -/
def append (heads : Heads) (hashing : Hashing) (kind : ChainKind) (leaf : Digest) : Heads :=
  let head := kind.link hashing (heads.head kind) leaf
  match kind with
  | .feedback => { heads with feedback := head }
  | .revocation => { heads with revocation := head }
  | .response => { heads with response := head }

/-- Whether a chain holds exactly the given leaves. -/
def verify (heads : Heads) (hashing : Hashing) (kind : ChainKind) (leaves : List Digest) : Bool :=
  kind.replay hashing leaves == heads.head kind

@[simp] theorem head_append_self (heads : Heads) (hashing : Hashing) (kind : ChainKind)
    (leaf : Digest) :
    (heads.append hashing kind leaf).head kind = kind.link hashing (heads.head kind) leaf := by
  cases kind <;> rfl

theorem head_append_of_ne {heads : Heads} {hashing : Hashing} {kind other : ChainKind}
    {leaf : Digest} (different : other ≠ kind) :
    (heads.append hashing kind leaf).head other = heads.head other := by
  cases kind <;> cases other <;> first | rfl | exact absurd rfl different

end Heads

@[simp] theorem ChainKind.replay_concat (kind : ChainKind) (hashing : Hashing)
    (leaves : List Digest) (leaf : Digest) :
    kind.replay hashing (leaves ++ [leaf]) =
      kind.link hashing (kind.replay hashing leaves) leaf := by
  simp [replay]

end Reputation
