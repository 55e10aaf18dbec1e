/-
**The chains replay the history.**

The heads of an entity are stored, its events are not. Who holds the history of the engine can tell
the heads: replaying the leaves of the accepted events of an entity, in the order of the calls,
gives the head of each of its chains. This holds for any hash function.

* `leaves kind entity history`: the leaves that belong into a chain, by the history alone.
* `Replays`: a record has the heads that the history gives.
* `Replays.step`: a call makes each chain longer by exactly the leaf that its reply adds.
* **`heads_replay_history`**: after every run an entity has heads exactly if a feedback on it was
  accepted, and they are the replayed ones.
-/

import Reputation.Proofs.Engine.Run

namespace Reputation

namespace Engine

/-- The leaf that a reply adds to a chain of its entity, if any: that of an accepted feedback, of a
revocation with impact, or of an accepted response. -/
def Reply.leaf? : ChainKind → Reply → Option Leaf
  | .feedback, .ingested event (.ok _) => some event.leaf
  | .revocation, .revoked event (.ok result) => if result.hadImpact then some event.leaf else none
  | .response, .responded event (.ok _) => some event.leaf
  | _, _ => none

/-- The leaves that belong into a chain of an entity, in the order of the calls. -/
def leaves (kind : ChainKind) (entity : EntityId) (history : List Entry) : List Leaf :=
  history.filterMap fun entry => (entry.reply.leaf? kind).filter (·.entity = entity)

/-- The head of a chain of an entity, worked out from the history. -/
def replayed (hashing : Hashing) (kind : ChainKind) (entity : EntityId) (history : List Entry) :
    Digest :=
  kind.replay hashing ((leaves kind entity history).map (·.hash hashing))

variable {hashing : Hashing} {config : Config} {kind : ChainKind} {entity : EntityId}
  {history : List Entry} {reply : Reply}

/-! ### One more call -/

theorem leaves_concat_of_some {leaf : Leaf} (added : reply.leaf? kind = some leaf)
    (about : leaf.entity = entity) :
    leaves kind entity (history ++ [⟨config, reply⟩]) = leaves kind entity history ++ [leaf] := by
  have kept : (reply.leaf? kind).filter (·.entity = entity) = some leaf := by
    rw [added]
    exact if_pos (decide_eq_true about)
  simp only [leaves, List.filterMap_append, List.filterMap_cons, kept, List.filterMap_nil]

theorem leaves_concat_of_none (added : (reply.leaf? kind).filter (·.entity = entity) = none) :
    leaves kind entity (history ++ [⟨config, reply⟩]) = leaves kind entity history := by
  simp only [leaves, List.filterMap_append, List.filterMap_cons, added, List.filterMap_nil,
    List.append_nil]

/-- A reply that adds a leaf changes its entity. -/
theorem changes_of_leaf? {leaf : Leaf} (added : reply.leaf? kind = some leaf) :
    reply.changes leaf.entity = true := by
  rw [Reply.leaf?.eq_def] at added
  split at added
  · cases added
    exact decide_eq_true rfl
  · split at added
    · rename_i impact
      cases added
      simp [Reply.changes, impact, Revocation.leaf]
    · cases added
  · cases added
    exact decide_eq_true rfl
  · cases added

theorem leaves_concat_of_still (still : reply.changes entity = false) :
    leaves kind entity (history ++ [⟨config, reply⟩]) = leaves kind entity history := by
  refine leaves_concat_of_none (Option.filter_eq_none_iff.mpr fun leaf added about => ?_)
  rw [← of_decide_eq_true about, changes_of_leaf? added] at still
  cases still

/-- A reply adds a leaf to one chain at most. -/
theorem leaf?_of_ne {which : ChainKind} {leaf : Leaf} (added : reply.leaf? which = some leaf)
    (different : kind ≠ which) : reply.leaf? kind = none := by
  rcases reply with ⟨event, _ | result⟩ | ⟨event, _ | result⟩ | ⟨event, _ | result⟩ | _ <;>
    cases which <;> cases kind <;> first | rfl | exact absurd rfl different | cases added

/-- **One chain longer by a leaf.** Heads that replay the history replay it with a reply more, if
the leaf of the reply is appended to its chain. -/
theorem head_append_eq_replayed {heads : Heads} {which : ChainKind} {leaf : Leaf}
    (same : ∀ kind, heads.head kind = replayed hashing kind entity history)
    (added : reply.leaf? which = some leaf) (about : leaf.entity = entity) :
    (heads.append hashing which (leaf.hash hashing)).head kind =
      replayed hashing kind entity (history ++ [⟨config, reply⟩]) := by
  by_cases here : kind = which
  · subst here
    rw [Heads.head_append_self, same, replayed, replayed, leaves_concat_of_some added about,
      List.map_append, List.map_singleton, ChainKind.replay_concat]
  · have quiet : (reply.leaf? kind).filter (·.entity = entity) = none := by
      rw [leaf?_of_ne added here]
      rfl
    rw [Heads.head_append_of_ne here, same, replayed, replayed, leaves_concat_of_none quiet]

/-- Whether a record, if there is one, has the heads that the history gives. -/
def Replays (hashing : Hashing) (entity : EntityId) (history : List Entry) : Option Record → Prop
  | none => ∀ kind, leaves kind entity history = []
  | some record => leaves .feedback entity history ≠ [] ∧
      ∀ kind, record.heads.head kind = replayed hashing kind entity history

/-- The record that a feedback is taken into has the heads that the history gives. -/
theorem Replays.opened {current : Option Record} {event : Feedback} {record : Record}
    (replays : Replays hashing entity history current)
    (entered : Record.opened hashing current event = .ok record) :
    record.heads.head kind = replayed hashing kind entity history := by
  rcases Record.opened_eq_ok.mp entered with ⟨rfl, -⟩ | ⟨rfl, rfl⟩
  · exact replays.2 kind
  · rw [replayed, replays kind]
    cases kind <;> rfl

/-- **Every effect keeps the heads in step with the history.** -/
theorem Replays.step {before after : Option Record}
    (replays : Replays hashing entity history before)
    (effect : Effect hashing config entity before reply after) :
    Replays hashing entity (history ++ [⟨config, reply⟩]) after := by
  cases effect with
  | kept still =>
    cases before with
    | none => exact fun kind => (leaves_concat_of_still still).trans (replays kind)
    | some record =>
      refine ⟨by rw [leaves_concat_of_still still]; exact replays.1, fun kind => ?_⟩
      rw [replays.2 kind, replayed, replayed, leaves_concat_of_still still]
  | ingested about checked entered room =>
    refine ⟨?_, fun kind => head_append_eq_replayed (fun _ => replays.opened entered) rfl about⟩
    rw [leaves_concat_of_some rfl about]
    exact List.append_ne_nil_of_right_ne_nil _ (List.cons_ne_nil _ _)
  | revoked about checked timely found room settles =>
    subst settles
    refine ⟨?_, fun kind => head_append_eq_replayed replays.2 rfl about⟩
    rw [leaves_concat_of_none rfl]
    exact replays.1
  | responded about checked room =>
    refine ⟨?_, fun kind => head_append_eq_replayed replays.2 rfl about⟩
    rw [leaves_concat_of_none rfl]
    exact replays.1

/-- **The stored heads are the replayed ones.** After any run of feedbacks, revocations, responses
and new configurations, under any hash function, an entity has heads exactly if a feedback on it was
accepted. The feedback head replays the leaves of its accepted feedbacks, the revocation head those
of its revocations with impact, and the response head those of its accepted responses, each in the
order of the calls. -/
theorem heads_replay_history (hashing : Hashing) (config : Config) (calls : List Call)
    (entity : EntityId) :
    let history := (system hashing config).history calls
    ((system hashing config).final calls).heads? entity =
      if leaves .feedback entity history = [] then none
      else some
        { feedback := ChainKind.feedback.replay hashing
            ((leaves .feedback entity history).map (·.hash hashing))
          revocation := ChainKind.revocation.replay hashing
            ((leaves .revocation entity history).map (·.hash hashing))
          response := ChainKind.response.replay hashing
            ((leaves .response entity history).map (·.hash hashing)) } := by
  intro history
  have replays : Replays hashing entity history
      (((system hashing config).final calls).record? entity) :=
    record_invariant (fun _ => True) (Replays hashing entity) trivial (fun _ _ => trivial)
      (fun _ => rfl) (fun _ _ _ _ _ replays _ effect => replays.step effect) calls
  unfold heads?
  cases known : ((system hashing config).final calls).record? entity with
  | none =>
    rw [known] at replays
    exact (if_pos (replays .feedback)).symm
  | some record =>
    rw [known] at replays
    rw [if_neg replays.1, Option.map_some, Option.some.injEq]
    exact congr (congr (congrArg Heads.mk (replays.2 .feedback)) (replays.2 .revocation))
      (replays.2 .response)

end Engine

end Reputation
