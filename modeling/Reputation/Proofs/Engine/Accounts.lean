/-
**The counters of a record keep the books.**

A record counts its accepted feedbacks, its revocations with impact and its responses, a chain for
each. The counters agree with the history, call by call, as long as the record is not put in from
outside. That the configuration changes from call to call is of no account.

* `freely`: runs in which every call has a configuration of its own, within bounds or not.
* `free_invariant`: what every effect keeps holds after every such run.
* `Counted`: the counters of a record are the numbers of leaves in the history.
* `Counted.step`: every effect keeps them so.
-/

import Reputation.Proofs.Engine.Chains

namespace Reputation

/-- The counter of the events in a chain. -/
def Record.count (record : Record) : ChainKind → UInt32
  | .feedback => record.feedbackCount
  | .revocation => record.revokedCount
  | .response => record.responseCount

/-- A counter with room goes up by one. -/
theorem Record.HasRoom.toNat_add_one {count : UInt32} (room : HasRoom count) :
    (count + 1).toNat = count.toNat + 1 := by
  have below : count.toNat + 1 < 2 ^ 32 := by
    have bound := count.toNat_lt
    unfold HasRoom at room
    omega
  rw [UInt32.toNat_add, UInt32.toNat_one, Nat.mod_eq_of_lt below]

namespace Engine

/-! ### Calls under any configuration -/

/-- A call under a configuration of its own. -/
structure Asked where
  config : Config
  call : Call

/-- The engine as a system in which every call has a configuration of its own. -/
def freely (hashing : Hashing) : System Engine Asked Entry where
  start := {}
  step engine asked := { engine with config := asked.config }.call hashing asked.call

variable {hashing : Hashing} {config : Config} {kind which : ChainKind} {entity : EntityId}
  {history : List Entry} {reply : Reply}

/-- **What every effect keeps holds after every run, whatever the configurations.** -/
theorem free_invariant (Holds : List Entry → Option Record → Prop) (opening : Holds [] none)
    (kept : ∀ history config reply before after, Holds history before →
      Effect hashing config entity before reply after → Holds (history ++ [⟨config, reply⟩]) after)
    (asked : List Asked) :
    Holds ((freely hashing).history asked) (((freely hashing).final asked).record? entity) := by
  refine (freely hashing).invariant (fun history engine => Holds history (engine.record? entity))
    opening ?_ asked
  intro history engine asked holds
  show Holds (history ++ [({ engine with config := asked.config }.call hashing asked.call).2])
    (({ engine with config := asked.config }.call hashing asked.call).1.record? entity)
  rw [entry_call]
  exact kept _ _ _ _ _ holds (call_effect asked.call)

/-! ### Counters against the history -/

/-- A reply adds its leaf to one chain and to no other. -/
theorem length_leaves_concat {leaf : Leaf} (added : reply.leaf? which = some leaf)
    (about : leaf.entity = entity) :
    (leaves kind entity (history ++ [⟨config, reply⟩])).length =
      (leaves kind entity history).length + if kind = which then 1 else 0 := by
  split
  · rename_i here
    rw [here, leaves_concat_of_some added about, List.length_append, List.length_singleton]
  · rename_i elsewhere
    have quiet : (reply.leaf? kind).filter (·.entity = entity) = none := by
      rw [leaf?_of_ne added elsewhere]
      rfl
    rw [leaves_concat_of_none quiet, Nat.add_zero]

/-- The counters of a record, if there is one, are the numbers of leaves in the history. -/
def Counted (entity : EntityId) (history : List Entry) : Option Record → Prop
  | none => ∀ kind, leaves kind entity history = []
  | some record => ∀ kind, (record.count kind).toNat = (leaves kind entity history).length

/-- The record that a feedback is taken into is counted like the one before. -/
theorem Counted.opened {current : Option Record} {event : Feedback} {record : Record}
    (counted : Counted entity history current)
    (entered : Record.opened hashing current event = .ok record) :
    (record.count kind).toNat = (leaves kind entity history).length := by
  rcases Record.opened_eq_ok.mp entered with ⟨rfl, -⟩ | ⟨rfl, rfl⟩
  · exact counted kind
  · rw [counted kind]
    cases kind <;> rfl

/-- One counter and one chain go up together. -/
theorem counted_concat (which : ChainKind) {before after : Record} {leaf : Leaf}
    (counted : ∀ kind, (before.count kind).toNat = (leaves kind entity history).length)
    (added : reply.leaf? which = some leaf) (about : leaf.entity = entity)
    (room : Record.HasRoom (before.count which))
    (counts : ∀ kind, after.count kind =
      if kind = which then before.count kind + 1 else before.count kind) :
    Counted entity (history ++ [⟨config, reply⟩]) (some after) := by
  intro kind
  rw [length_leaves_concat added about, counts, ← counted kind]
  split
  · rename_i here
    rw [here, room.toNat_add_one]
  · rfl

/-- **Every effect keeps the counters in step with the history.** -/
theorem Counted.step {before after : Option Record} (counted : Counted entity history before)
    (effect : Effect hashing config entity before reply after) :
    Counted entity (history ++ [⟨config, reply⟩]) after := by
  cases effect with
  | kept still =>
    cases before with
    | none => exact fun kind => (leaves_concat_of_still still).trans (counted kind)
    | some record =>
      intro kind
      rw [leaves_concat_of_still still]
      exact counted kind
  | ingested about checked entered room =>
    exact counted_concat .feedback (fun _ => counted.opened entered) rfl about room.feedback
      (by rintro (_ | _ | _) <;> rfl)
  | revoked about checked timely found room settles =>
    subst settles
    exact counted_concat .revocation counted rfl about room (by rintro (_ | _ | _) <;> rfl)
  | responded about checked room =>
    exact counted_concat .response counted rfl about room (by rintro (_ | _ | _) <;> rfl)

end Engine

end Reputation
