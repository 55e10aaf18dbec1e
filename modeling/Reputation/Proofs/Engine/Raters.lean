/-
**The registers have seen every accepted rater.**

A rater who is still remembered is not put to the registers again. Nothing is lost by it: whoever is
remembered was accepted and observed before, however the slots were written over, given up or
revoked since. The registers of an entity are therefore those of all its accepted raters, repeats
included, and nobody is counted as new twice.

* `acceptedOn`, `fingerprints`, `newcomers`: the accepted raters of an entity and those who were
  told to be new, by the history alone.
* `Observed`: the registers and slots of a record match its accepted raters.
* `Observed.takeIn`, `Observed.settled`: what each event keeps.
* **`raters_observed`**: after every run.
-/

import Reputation.Proofs.Engine.Standing
import Reputation.Proofs.Raters.Cardinality

namespace Reputation

namespace Recency

variable {recency next : Recency} {policy : RingPolicy} {fresh : Slot}
  {fingerprint rater : Fingerprint} {location : Location}

theorem WriteCase.rater?_of_isRepeat {outcome : WriteOutcome}
    (case : WriteCase recency policy fresh next outcome)
    (again : outcome.placement.isRepeat = true) :
    ∃ location, recency.rater? location = some fresh.fingerprint := by
  cases case with
  | @overwritten location previous found holds =>
    refine ⟨location, ?_⟩
    rw [rater?, holds, Option.map_some, fingerprint_of_find? found holds]
  | inserted | elapsed | forced | passed => cases again

/-- Whoever is remembered after a write was remembered before or is the rater of the write. -/
theorem WriteCase.rater? {outcome : WriteOutcome}
    (case : WriteCase recency policy fresh next outcome)
    (remembered : next.rater? location = some rater) :
    rater = fresh.fingerprint ∨ recency.rater? location = some rater := by
  obtain ⟨place, puts, -⟩ := case.puts
  rw [puts.rater? location] at remembered
  split at remembered
  · exact .inl (Option.some.inj remembered).symm
  · exact .inr remembered

theorem RevokeCase.rater? {sequence : UInt64} {lookup : RevokeLookup}
    (case : RevokeCase recency fingerprint sequence next lookup) :
    next.rater? location = recency.rater? location := by
  cases case with
  | absent | stale | repeated => rfl
  | struck found holds => exact rater?_setSlot holds rfl

end Recency

namespace Engine

/-! ### The accepted raters -/

/-- What a reply says of an accepted feedback on an entity: its rater, and whether the rater is
new. -/
def Reply.accepted? (entity : EntityId) : Reply → Option (Feedback × Bool)
  | .ingested event (.ok result) =>
    if event.entity = entity then some (event, result.isUnique) else none
  | _ => none

/-- The accepted feedbacks on an entity, each with whether its rater was told to be new. -/
def acceptedOn (entity : EntityId) (history : List Entry) : List (Feedback × Bool) :=
  history.filterMap (·.reply.accepted? entity)

/-- The salt of an entity, which is made at its first accepted feedback. -/
def saltFrom (hashing : Hashing) (entity : EntityId) (taken : List (Feedback × Bool)) : UInt64 :=
  taken.head?.elim 0 fun first => entitySalt hashing entity first.1.rater first.1.time

/-- The fingerprints under a salt of the raters of some feedbacks. -/
def fingerprintsUnder (salt : UInt64) (hashing : Hashing) (entity : EntityId)
    (taken : List (Feedback × Bool)) : List Fingerprint :=
  taken.map fun item => .of hashing salt entity item.1.rater

/-- The fingerprints of all accepted raters of an entity, repeats included. -/
def fingerprints (hashing : Hashing) (entity : EntityId) (history : List Entry) :
    List Fingerprint :=
  let taken := acceptedOn entity history
  fingerprintsUnder (saltFrom hashing entity taken) hashing entity taken

/-- The fingerprints of the raters who were told to be new. -/
def newcomers (hashing : Hashing) (entity : EntityId) (history : List Entry) :
    List Fingerprint :=
  let taken := acceptedOn entity history
  fingerprintsUnder (saltFrom hashing entity taken) hashing entity (taken.filter (·.2))

variable {hashing : Hashing} {config : Config} {entity : EntityId} {record : Record}
  {taken : List (Feedback × Bool)} {history : List Entry} {reply : Reply}

theorem acceptedOn_concat :
    acceptedOn entity (history ++ [⟨config, reply⟩]) =
      acceptedOn entity history ++ (reply.accepted? entity).toList := by
  rw [acceptedOn, List.filterMap_append, acceptedOn, List.filterMap_cons]
  cases reply.accepted? entity <;> rfl

theorem fingerprintsUnder_concat (salt : UInt64) (item : Feedback × Bool) :
    fingerprintsUnder salt hashing entity (taken ++ [item]) =
      fingerprintsUnder salt hashing entity taken ++
        [.of hashing salt entity item.1.rater] := by
  rw [fingerprintsUnder, List.map_append]
  rfl

theorem mem_fingerprintsUnder_of_filter {salt : UInt64} {rater : Fingerprint}
    (among : rater ∈ fingerprintsUnder salt hashing entity (taken.filter (·.2))) :
    rater ∈ fingerprintsUnder salt hashing entity taken :=
  (List.filter_sublist.map _).subset among

theorem saltFrom_concat (made : taken ≠ []) (item : Feedback × Bool) :
    saltFrom hashing entity (taken ++ [item]) = saltFrom hashing entity taken := by
  cases taken with
  | nil => exact absurd rfl made
  | cons first rest => rfl

/-! ### Records and their raters -/

/-- The registers and slots of a record match its accepted raters, and nobody was told to be new
twice. -/
structure Observed (hashing : Hashing) (entity : EntityId) (taken : List (Feedback × Bool))
    (record : Record) : Prop where
  registers : record.cardinality = .tally (fingerprintsUnder record.salt hashing entity taken)
  remembered : ∀ location rater, record.recency.rater? location = some rater →
    rater ∈ fingerprintsUnder record.salt hashing entity taken
  once : (fingerprintsUnder record.salt hashing entity (taken.filter (·.2))).Nodup

theorem observed_empty (salt firstSeen : UInt64) :
    Observed hashing entity [] (.empty entity salt firstSeen) where
  registers := rfl
  remembered location rater held := by
    have nobody : (Recency.empty firstSeen).rater? location = none :=
      Recency.rater?_eq_none.mpr (Recency.slot?_empty firstSeen location)
    cases nobody.symm.trans held
  once := List.nodup_nil

/-- A feedback is remembered under the fingerprint of its rater, who is put to the registers unless
remembered before. -/
theorem takeIn_remembers (record : Record) (hashing : Hashing) (config : Config)
    (event : Feedback) :
    let rater := Fingerprint.of hashing record.salt event.entity event.rater
    let taken := record.takeIn hashing config event
    ∃ outcome, Recency.WriteCase record.recency config.ring
        ⟨rater, event.score, false, event.sequence, event.time⟩ taken.record.recency outcome ∧
      taken.record.cardinality = (if outcome.placement.isRepeat then record.cardinality
        else record.cardinality.observe rater) ∧
      taken.result.isUnique =
        (!outcome.placement.isRepeat && record.cardinality.isRaisedBy rater) :=
  ⟨_, Recency.write_cases _ _ _ _ _ _, rfl, rfl⟩

/-- **An accepted feedback keeps registers and slots in step with the raters.** -/
theorem Observed.takeIn (observed : Observed hashing entity taken record) (config : Config)
    {event : Feedback} (about : event.entity = entity) :
    Observed hashing entity
      (taken ++ [(event, (record.takeIn hashing config event).result.isUnique)])
      (record.takeIn hashing config event).record := by
  subst about
  obtain ⟨outcome, case, registers, unique⟩ := takeIn_remembers record hashing config event
  generalize raterIs : Fingerprint.of hashing record.salt event.entity event.rater = rater
    at case registers unique
  have salt : (record.takeIn hashing config event).record.salt = record.salt := rfl
  -- The skipped observation of a remembered rater would have changed nothing.
  have observing : (record.takeIn hashing config event).record.cardinality =
      record.cardinality.observe rater := by
    rw [registers]
    split
    · rename_i again
      obtain ⟨location, held⟩ := case.rater?_of_isRepeat again
      rw [observed.registers, Cardinality.observe_tally (observed.remembered _ _ held)]
    · rfl
  refine ⟨?_, fun location other held => ?_, ?_⟩
  · rw [observing, observed.registers, salt, fingerprintsUnder_concat, Cardinality.tally_concat,
      raterIs]
  · rw [salt, fingerprintsUnder_concat, raterIs, List.mem_append, List.mem_singleton]
    exact (case.rater? held).symm.imp (observed.remembered _ _) id
  · rw [salt, List.filter_append]
    cases told : (record.takeIn hashing config event).result.isUnique with
    | false => simpa using observed.once
    | true =>
      have raises : record.cardinality.isRaisedBy rater = true := by
        rw [told] at unique
        exact (Bool.and_eq_true_iff.mp unique.symm).2
      have unseen : rater ∉ fingerprintsUnder record.salt hashing event.entity
          (taken.filter (·.2)) := by
        intro among
        rw [observed.registers, Cardinality.not_isRaisedBy_tally
          (mem_fingerprintsUnder_of_filter among)] at raises
        cases raises
      rw [List.filter_cons_of_pos rfl, List.filter_nil, fingerprintsUnder_concat, raterIs]
      refine List.nodup_append.mpr ⟨observed.once, List.pairwise_singleton _ _, ?_⟩
      rintro other among _ member rfl
      exact unseen (List.mem_singleton.mp member ▸ among)

/-- **A revocation leaves the registers and the remembered raters as they are.** -/
theorem Observed.settled (observed : Observed hashing entity taken record) (config : Config)
    {event : Revocation} {recency : Recency} {lookup : RevokeLookup} (score : UInt8)
    (found : record.lookUp hashing event = (recency, lookup)) :
    Observed hashing entity taken
      ({ record with recency }.settled hashing config event score).1 := by
  have case := Record.lookUp_case found
  refine ⟨observed.registers, fun location rater held => ?_, observed.once⟩
  exact observed.remembered location rater (case.rater?.symm.trans held)

/-! ### Runs -/

/-- Whether a record, if there is one, matches the accepted raters of its entity. -/
def Seen (hashing : Hashing) (entity : EntityId) (history : List Entry) : Option Record → Prop
  | none => acceptedOn entity history = []
  | some record => acceptedOn entity history ≠ [] ∧
      record.salt = saltFrom hashing entity (acceptedOn entity history) ∧
      Observed hashing entity (acceptedOn entity history) record

theorem acceptedOn_concat_of_still (silent : reply.accepted? entity = none) :
    acceptedOn entity (history ++ [⟨config, reply⟩]) = acceptedOn entity history := by
  rw [acceptedOn_concat, silent, Option.toList_none, List.append_nil]

theorem accepted?_of_still (still : reply.changes entity = false) :
    reply.accepted? entity = none := by
  rcases reply with ⟨event, _ | result⟩ | ⟨event, answer⟩ | ⟨event, answer⟩ | ⟨config, answer⟩
  · rfl
  · exact if_neg (of_decide_eq_false still)
  all_goals rfl

/-- **Every effect keeps a record in step with its accepted raters.** -/
theorem Seen.step {before after : Option Record} (seen : Seen hashing entity history before)
    (effect : Effect hashing config entity before reply after) :
    Seen hashing entity (history ++ [⟨config, reply⟩]) after := by
  cases effect with
  | kept still =>
    have same : acceptedOn entity (history ++ [⟨config, reply⟩]) = acceptedOn entity history :=
      acceptedOn_concat_of_still (accepted?_of_still still)
    cases before <;> simpa only [Seen, same] using seen
  | @ingested _ record event about checked entered room =>
    have longer : acceptedOn entity (history ++ [⟨config, .ingested event
        (.ok (record.takeIn hashing config event).result)⟩]) = acceptedOn entity history ++
          [(event, (record.takeIn hashing config event).result.isUnique)] := by
      rw [acceptedOn_concat, Reply.accepted?, if_pos about]
      rfl
    rw [Seen, longer]
    rcases Record.opened_eq_ok.mp entered with ⟨rfl, -⟩ | ⟨rfl, rfl⟩
    · obtain ⟨some, salt, observed⟩ := seen
      exact ⟨List.append_ne_nil_of_right_ne_nil _ (List.cons_ne_nil _ _),
        salt.trans (saltFrom_concat some _).symm, observed.takeIn config about⟩
    · rw [show acceptedOn entity history = [] from seen]
      subst about
      exact ⟨List.cons_ne_nil _ _, rfl, (observed_empty _ _).takeIn config rfl⟩
  | revoked about checked timely found room settles =>
    subst settles
    obtain ⟨some, salt, observed⟩ := seen
    rw [Seen, acceptedOn_concat_of_still rfl]
    exact ⟨some, salt, observed.settled config _ found⟩
  | responded about checked room =>
    obtain ⟨some, salt, observed⟩ := seen
    rw [Seen, acceptedOn_concat_of_still rfl]
    exact ⟨some, salt, observed.registers, observed.remembered, observed.once⟩

/-- **The registers have seen every accepted rater.** After every run, an entity has registers
exactly if a feedback on it was accepted, and they are those after the fingerprints of all its
accepted raters, repeats included, were observed in turn. So they, and the estimate, are told by the
set of these fingerprints. And no fingerprint was told to be new twice. -/
theorem raters_observed (hashing : Hashing) (config : Config) (calls : List Call)
    (entity : EntityId) :
    let history := (system hashing config).history calls
    let current := ((system hashing config).final calls).record? entity
    (current.map (·.cardinality) = if fingerprints hashing entity history = [] then none
        else some (.tally (fingerprints hashing entity history))) ∧
      (∀ record, current = some record → ∀ raters : List Fingerprint,
        (∀ rater, rater ∈ raters ↔ rater ∈ fingerprints hashing entity history) →
          record.raters = (Cardinality.tally raters).estimate) ∧
      (newcomers hashing entity history).Nodup := by
  intro history current
  have seen : Seen hashing entity history current :=
    record_invariant (fun _ => True) (Seen hashing entity) trivial (fun _ _ => trivial) rfl
      (fun _ _ _ _ _ seen _ effect => seen.step effect) calls
  have empty_iff : fingerprints hashing entity history = [] ↔ acceptedOn entity history = [] :=
    List.map_eq_nil_iff
  cases known : current with
  | none =>
    rw [known] at seen
    refine ⟨(if_pos (empty_iff.mpr seen)).symm, ?_, ?_⟩
    · rintro _ ⟨⟩
    · rw [newcomers, show acceptedOn entity history = [] from seen]
      exact List.nodup_nil
  | some record =>
    rw [known] at seen
    obtain ⟨some, salt, observed⟩ := seen
    have registers : record.cardinality = .tally (fingerprints hashing entity history) := by
      rw [observed.registers, salt]
      rfl
    refine ⟨?_, ?_, ?_⟩
    · rw [if_neg (fun none => some (empty_iff.mp none)), Option.map_some, registers]
    · rintro _ ⟨rfl⟩ raters same
      rw [Record.raters, registers, Cardinality.tally_eq_of_mem_iff same]
    · rw [newcomers, ← salt]
      exact observed.once

/-- A rater who is accepted, revoked and accepted again, with another one in between and a third one
refused. -/
def returning : List Call :=
  [rating 1 80 0, rating 2 90 20, .revoke ⟨⟨1⟩, ⟨.ofSeed 1⟩, 1, 30, ⟨.fill 0⟩⟩, rating 3 101 30,
    .updateConfig {}, rating 1 40 40]

/-- The two raters are told to be new once each, and may be observed in any order. -/
theorem raters_observed_returning :
    let history := (system summing lenient).history returning
    (acceptedOn ⟨1⟩ history).map (·.2) = [true, true, false] ∧
      (newcomers summing ⟨1⟩ history).Nodup ∧
      ∃ record, ((system summing lenient).final returning).record? ⟨1⟩ = some record ∧
        record.raters =
          (Cardinality.tally (fingerprints summing ⟨1⟩ history).reverse).estimate := by
  intro history
  obtain ⟨-, estimates, once⟩ := raters_observed summing lenient returning ⟨1⟩
  have present : (((system summing lenient).final returning).record? ⟨1⟩).isSome = true := by
    decide +kernel
  obtain ⟨record, known⟩ := Option.isSome_iff_exists.mp present
  exact ⟨by decide +kernel, once, record, known,
    estimates record known _ fun _ => List.mem_reverse⟩

end Engine

end Reputation
