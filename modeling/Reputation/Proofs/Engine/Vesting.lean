/-
**Vesting under changing configurations.**

The clock of a candidacy is the number of an epoch. At a promotion it is held against the number of
the current epoch, and the two may count epochs of different lengths, since a new configuration
leaves candidacies as they are. So a promotion waits for the vesting epochs as they are counted, and
for their time if the epochs are as long as they were when the candidacy began.

* `CandidacyStep` lists what a call can do to a candidacy, and `candidacyStep_of_effect` says that
  it does no more.
* `Vesting`: a candidacy that some call began and every later call left open, without beginning a
  new one.
* `vesting_of_run`: every open candidacy is of this kind, and its clock is the epoch in which it
  began, by the configuration then in force.
* **`promoted_after_waiting`**: what has passed since the candidacy began when a tier is confirmed.
* `promoted_by_shorter_epochs`: a promotion one second after its candidacy began.
-/

import Reputation.Proofs.Engine.Time

namespace Reputation

/-! ### Candidacies -/

/-- The tier and the clock of an open candidacy. -/
def TierMachine.candidacy? (machine : TierMachine) : Option (Tier × UInt64) :=
  machine.candidate.map fun tier => (tier, machine.candidateEpoch)

/-- What an event can do to a candidacy, by the epoch in which it is scored if it is. -/
inductive CandidacyStep (epoch? : Option UInt64) :
    Option (Tier × UInt64) → Option (Tier × UInt64) → Prop
  /-- None is open any longer. -/
  | closed {before : Option (Tier × UInt64)} : CandidacyStep epoch? before none
  /-- It stays open, perhaps for a lower tier. -/
  | held {higher tier : Tier} {clock : UInt64} (below : tier ≤ higher) :
      CandidacyStep epoch? (some (higher, clock)) (some (tier, clock))
  /-- One for a higher tier begins. -/
  | begun {before : Option (Tier × UInt64)} {tier : Tier} {epoch : UInt64}
      (scored : epoch? = some epoch) (above : ∀ held ∈ before, held.1 < tier) :
      CandidacyStep epoch? before (some (tier, epoch))

theorem CandidacyStep.refl (epoch? : Option UInt64) (candidacy? : Option (Tier × UInt64)) :
    CandidacyStep epoch? candidacy? candidacy? := by
  cases candidacy? with
  | none => exact .closed
  | some => exact .held (Nat.le_refl _)

namespace TierMachine

variable {machine next : TierMachine} {eligible : Tier} {epoch : UInt64} {policy : TierPolicy}
  {transition : Transition}

theorem candidacy?_of_keepsClock (keeps : machine.keepsClock eligible = true) :
    ∃ higher, eligible ≤ higher ∧ machine.candidacy? = some (higher, machine.candidateEpoch) := by
  obtain ⟨higher, candidate, below⟩ := (Option.any_eq_true _ _).mp keeps
  exact ⟨higher, of_decide_eq_true below, by rw [candidacy?, candidate]; rfl⟩

theorem lt_of_not_keepsClock (fresh : machine.keepsClock eligible ≠ true) :
    ∀ held ∈ machine.candidacy?, held.1 < eligible := by
  intro held isOpen
  obtain ⟨tier, candidate, rfl⟩ := Option.map_eq_some_iff.mp isOpen
  refine Nat.lt_of_not_le fun below => fresh ?_
  exact (Option.any_eq_true _ _).mpr ⟨tier, candidate, decide_eq_true below⟩

theorem Advance.candidacyStep (advance : Advance machine eligible epoch policy next transition) :
    CandidacyStep (some epoch) machine.candidacy? next.candidacy? := by
  cases advance with
  | fallen => exact .refl _ _
  | settled | vested => exact .closed
  | waiting =>
    show CandidacyStep (some epoch) _ (some (eligible, machine.clock eligible epoch))
    unfold clock
    split
    · rename_i keeps
      obtain ⟨higher, below, isOpen⟩ := candidacy?_of_keepsClock keeps
      rw [isOpen]
      exact .held below
    · rename_i fresh
      exact .begun rfl (lt_of_not_keepsClock fresh)

/-- **A tier is confirmed only on a candidacy that is at least the vesting epochs old.** -/
theorem Advance.candidacy_of_promoted {source target : Tier}
    (advance : Advance machine eligible epoch policy next (.promoted source target))
    (vests : 1 ≤ policy.vestingEpochs.toNat) :
    ∃ higher clock, target ≤ higher ∧ machine.candidacy? = some (higher, clock) ∧
      clock.toNat + policy.vestingEpochs.toNat ≤ epoch.toNat := by
  cases advance with
  | vested _ late =>
    unfold clock at late
    split at late
    · rename_i keeps
      obtain ⟨higher, below, isOpen⟩ := candidacy?_of_keepsClock keeps
      exact ⟨higher, machine.candidateEpoch, below, isOpen, by omega⟩
    · -- A clock that starts now has let no epoch pass.
      omega

end TierMachine

theorem TierPolicy.vests_of_check {policy : TierPolicy} {result : Unit}
    (within : policy.check = .ok result) : 1 ≤ policy.vestingEpochs.toNat := by
  simp only [check, check_bind_eq_ok, require_eq_ok, Bool.and_eq_true, decide_eq_true_eq] at within
  exact within.2.1.1

/-- A feedback at which a tier is confirmed finds a candidacy at least the vesting epochs old. -/
theorem Record.candidacy_of_promoted {record : Record} {hashing : Hashing} {config : Config}
    {event : Feedback} {source target : Tier} (vests : 1 ≤ config.tiers.vestingEpochs.toNat)
    (promoted : (record.takeIn hashing config event).result.transition =
      .promoted source target) :
    ∃ higher clock, target ≤ higher ∧ record.tier.candidacy? = some (higher, clock) ∧
      clock.toNat + config.tiers.vestingEpochs.toNat ≤
        (config.tiers.epochOf event.time).toNat := by
  obtain ⟨tier, advance, -⟩ := (record.noted hashing config event).rescore_cases
    (config.tiers.epochOf event.time) config
  have moved : ((record.noted hashing config event).rescore (config.tiers.epochOf event.time)
      config).2 = .promoted source target := promoted
  rw [moved] at advance
  exact advance.candidacy_of_promoted vests

namespace Engine

/-- The tier and the clock of the open candidacy of an entity. -/
def candidacy? (engine : Engine) (entity : EntityId) : Option (Tier × UInt64) :=
  (engine.record? entity).bind (·.tier.candidacy?)

variable {hashing : Hashing} {config : Config} {entity : EntityId} {reply : Reply}

/-- A record that is opened for a feedback has the candidacy that was open before. -/
theorem candidacy?_of_opened {current : Option Record} {record : Record} {event : Feedback}
    (entered : Record.opened hashing current event = .ok record) :
    current.bind (·.tier.candidacy?) = record.tier.candidacy? := by
  rcases Record.opened_eq_ok.mp entered with ⟨rfl, -⟩ | ⟨rfl, rfl⟩
  · rfl
  · rfl

/-- **What every effect does to the candidacy.** -/
theorem candidacyStep_of_effect {before after : Option Record}
    (effect : Effect hashing config entity before reply after) :
    CandidacyStep ((reply.scoredAt? entity).map config.tiers.epochOf)
      (before.bind (·.tier.candidacy?)) (after.bind (·.tier.candidacy?)) := by
  cases effect with
  | kept => exact .refl _ _
  | @ingested _ record event about checked entered room =>
    have scored : Reply.scoredAt? entity
        (.ingested event (.ok (record.takeIn hashing config event).result)) =
        some event.time := if_pos about
    obtain ⟨tier, advance, rescored⟩ := (record.noted hashing config event).rescore_cases
      (config.tiers.epochOf event.time) config
    have moved : (record.takeIn hashing config event).record.tier = tier := by
      rw [Record.record_takeIn, rescored]
    rw [candidacy?_of_opened entered, scored, Option.bind_some, moved]
    exact advance.candidacyStep
  | @revoked record recency event score location after about checked timely found room settles =>
    have scored : Reply.scoredAt? entity
        (.revoked event (.ok (Record.struckBy after event score).result)) = some event.time :=
      if_pos (decide_eq_true about)
    obtain ⟨tier, advance, rescored⟩ :=
      (({ record with recency } : Record).corrected config score).rescore_cases
        (config.tiers.epochOf event.time) config
    have moved : after.1.tier = tier := by
      rw [← settles, Record.record_settled, rescored]
    rw [scored, Option.bind_some, Option.bind_some, moved]
    exact advance.candidacyStep
  | responded => exact .refl _ _

/-! ### Runs -/

/-- The open candidacy of an entity after a run. -/
def candidacyAfter (hashing : Hashing) (config : Config) (entity : EntityId) (calls : List Call) :
    Option (Tier × UInt64) :=
  ((system hashing config).final calls).candidacy? entity

/-- Whether a candidacy begins: one is open afterwards that is for a higher tier than any one
before. -/
def Begins (before after : Option (Tier × UInt64)) : Prop :=
  ∃ tier clock, after = some (tier, clock) ∧ ∀ held ∈ before, held.1 < tier

/-- A candidacy for at least the given tier that was begun at the given time by the call after
`first`, and that every further call left open without beginning a new one. -/
structure Vesting (hashing : Hashing) (config : Config) (entity : EntityId) (tier : Tier)
    (first : List Call) (opening : Call) (further : List Call) (time : UInt64) : Prop where
  scored : (((system hashing config).final first).call hashing opening).2.reply.scoredAt? entity =
    some time
  begun : Begins (candidacyAfter hashing config entity first)
    (candidacyAfter hashing config entity (first ++ [opening]))
  held : ∀ stretch, stretch <+: further → ∃ higher, tier ≤ higher ∧
    candidacyAfter hashing config entity (first ++ opening :: stretch) =
      some (higher, ((system hashing config).final first).config.tiers.epochOf time)
  kept : ∀ stretch call, stretch ++ [call] <+: further →
    ¬ Begins (candidacyAfter hashing config entity (first ++ opening :: stretch))
      (candidacyAfter hashing config entity (first ++ opening :: (stretch ++ [call])))

variable {calls first further : List Call} {opening call : Call} {tier higher lower : Tier}
  {time clock : UInt64}

theorem candidacyStep_of_call (hashing : Hashing) (config : Config) (entity : EntityId)
    (calls : List Call) (call : Call) :
    CandidacyStep
      (((((system hashing config).final calls).call hashing call).2.reply.scoredAt? entity).map
        ((system hashing config).final calls).config.tiers.epochOf)
      (candidacyAfter hashing config entity calls)
      (candidacyAfter hashing config entity (calls ++ [call])) := by
  rw [candidacyAfter, candidacyAfter, System.final_concat]
  exact candidacyStep_of_effect (call_effect call)

/-- A candidacy for a tier is one for every lower tier. -/
theorem Vesting.lowered
    (vesting : Vesting hashing config entity higher first opening further time)
    (below : lower ≤ higher) :
    Vesting hashing config entity lower first opening further time where
  scored := vesting.scored
  begun := vesting.begun
  held stretch within := by
    obtain ⟨tier, above, isOpen⟩ := vesting.held stretch within
    exact ⟨tier, Nat.le_trans below above, isOpen⟩
  kept := vesting.kept

/-- A candidacy that has just begun. -/
theorem Vesting.opened
    (scored : (((system hashing config).final first).call hashing opening).2.reply.scoredAt?
      entity = some time)
    (isOpen : candidacyAfter hashing config entity (first ++ [opening]) =
      some (tier, ((system hashing config).final first).config.tiers.epochOf time))
    (above : ∀ held ∈ candidacyAfter hashing config entity first, held.1 < tier) :
    Vesting hashing config entity tier first opening [] time where
  scored := scored
  begun := ⟨tier, _, isOpen, above⟩
  held stretch within := by
    obtain rfl := List.prefix_nil.mp within
    exact ⟨tier, Nat.le_refl _, isOpen⟩
  kept stretch call within := by
    cases List.append_ne_nil_of_right_ne_nil _ (List.cons_ne_nil _ _) (List.prefix_nil.mp within)

/-- A candidacy that a further call leaves open. -/
theorem Vesting.extended
    (vesting : Vesting hashing config entity higher first opening further time)
    (isOpen : candidacyAfter hashing config entity (first ++ opening :: (further ++ [call])) =
      some (tier, ((system hashing config).final first).config.tiers.epochOf time))
    (below : tier ≤ higher) :
    Vesting hashing config entity tier first opening (further ++ [call]) time where
  scored := vesting.scored
  begun := vesting.begun
  held stretch within := by
    rcases List.prefix_concat_iff.mp within with rfl | before
    · exact ⟨tier, Nat.le_refl _, isOpen⟩
    · exact (vesting.lowered below).held stretch before
  kept stretch last within := by
    rcases List.prefix_concat_iff.mp within with whole | before
    · obtain ⟨rfl, same⟩ := List.append_inj' whole rfl
      cases same
      obtain ⟨held, above, wasOpen⟩ := vesting.held _ (List.prefix_refl _)
      -- What begins is for a higher tier than what was open, and this one is not.
      rintro ⟨_, _, renewed, exceeds⟩
      cases isOpen.symm.trans renewed
      exact absurd (exceeds _ wasOpen) (Nat.not_lt_of_le (Nat.le_trans below above))
    · exact vesting.kept stretch last before

/-- **Every open candidacy was begun by some call and left open by every further one.** Its clock
is the epoch in which it began, by the configuration then in force. -/
theorem vesting_of_run (isOpen : candidacyAfter hashing config entity calls = some (tier, clock)) :
    ∃ first opening further time, calls = first ++ opening :: further ∧
      ((system hashing config).final first).config.tiers.epochOf time = clock ∧
      Vesting hashing config entity tier first opening further time := by
  induction calls using List.reverseRecOn generalizing tier clock with
  | nil => cases isOpen
  | append_singleton calls call ih =>
    have step := candidacyStep_of_call hashing config entity calls call
    rw [isOpen] at step
    generalize wasOpen : candidacyAfter hashing config entity calls = before at step
    -- The last call left an older candidacy open, which the induction knows of, or it began one.
    cases step with
    | held below =>
      obtain ⟨first, opening, further, time, rfl, rfl, vesting⟩ := ih wasOpen
      rw [List.append_assoc, List.cons_append] at isOpen ⊢
      exact ⟨first, opening, further ++ [call], time, rfl, rfl, vesting.extended isOpen below⟩
    | begun scored above =>
      obtain ⟨time, timed, rfl⟩ := Option.map_eq_some_iff.mp scored
      exact ⟨calls, call, [], time, rfl, rfl, .opened timed isOpen (wasOpen ▸ above)⟩

/-- The configuration in force is within bounds after every run. -/
theorem config_of_run (hashing : Hashing) {config : Config} (within : config.check = .ok ())
    (calls : List Call) : ((system hashing config).final calls).config.check = .ok () :=
  (system hashing config).invariant (fun _ engine => engine.config.check = .ok ()) within
    (fun _ engine call within => by
      rcases config_call call with same | bounded
      · exact (congrArg Config.check same).trans within
      · exact bounded) calls

/-- A feedback that is accepted is taken into the record of its entity or into a new one. -/
theorem takeIn_of_ingest {engine : Engine} {event : Feedback} {result : UpdateResult}
    (accepted : (engine.ingest hashing event).answer = .ok result) :
    ∃ record, Record.opened hashing (engine.record? event.entity) event = .ok record ∧
      (record.takeIn hashing engine.config event).result = result := by
  change (engine.applyIngest hashing event).answer = .ok result at accepted
  rw [applyIngest_eq] at accepted
  split at accepted
  · cases accepted
  · rename_i ingested taken
    cases accepted
    obtain ⟨record, -, entered, -, rfl⟩ := Record.ingest_eq_ok.mp taken
    exact ⟨record, entered, rfl⟩

/-- **Vesting is waited for as it is counted.** Take any run of an engine whose first configuration
is within bounds, with events in any order of time, and a feedback after it at which a tier is
confirmed. The candidacy for the tier was begun by some call of the run that scored the entity, and
every further call left it open without beginning a new one. From the epoch in which it began, by
the configuration then in force, to the present epoch, by the present configuration, there are at
least the vesting epochs of the present configuration. If epochs were as long when it began as they
are now, more than all but one of the vesting epochs have passed in time. -/
theorem promoted_after_waiting (hashing : Hashing) {config : Config}
    (within : config.check = .ok ()) (calls : List Call) {event : Feedback}
    {result : UpdateResult} {source target : Tier}
    (accepted : (((system hashing config).final calls).ingest hashing event).answer = .ok result)
    (promoted : result.transition = .promoted source target) :
    ∃ first opening further time, calls = first ++ opening :: further ∧
      Vesting hashing config event.entity target first opening further time ∧
      let past := ((system hashing config).final first).config.tiers
      let present := ((system hashing config).final calls).config.tiers
      (past.epochOf time).toNat + present.vestingEpochs.toNat ≤
          (present.epochOf event.time).toNat ∧
        (past.epochLength = present.epochLength →
          time.toNat + (present.vestingEpochs.toNat - 1) * present.epochLength.toNat <
            event.time.toNat) := by
  obtain ⟨record, entered, rfl⟩ := takeIn_of_ingest accepted
  have vests := TierPolicy.vests_of_check
    (Config.check_eq_ok.mp (config_of_run hashing within calls)).2.2.2.2
  obtain ⟨higher, clock, below, isOpen, waited⟩ := Record.candidacy_of_promoted vests promoted
  have held : candidacyAfter hashing config event.entity calls = some (higher, clock) :=
    (candidacy?_of_opened entered).trans isOpen
  obtain ⟨first, opening, further, time, split, rfl, vesting⟩ := vesting_of_run held
  exact ⟨first, opening, further, time, split, vesting.lowered below, waited,
    fun same => TierPolicy.elapsed_of_epochs same vests waited⟩

/-- A feedback on the first entity by its second rater. -/
def seconding (time : UInt64) : Feedback := ⟨⟨1⟩, ⟨.ofSeed 2⟩, 90, 1, time, ⟨.fill 0⟩⟩

/-- The candidacy began at the first feedback, and gold is confirmed at the next one. -/
theorem gold_after_waiting :
    lenient.check = .ok () ∧
    ∃ result, (((system summing lenient).final [rating 1 80 0]).ingest summing
        (seconding 20)).answer = .ok result ∧
      result.transition = .promoted .unrated .gold ∧
      ∃ first opening further time, [rating 1 80 0] = first ++ opening :: further ∧
        Vesting summing lenient ⟨1⟩ .gold first opening further time ∧
        let past := ((system summing lenient).final first).config.tiers
        let present := ((system summing lenient).final [rating 1 80 0]).config.tiers
        (past.epochOf time).toNat + present.vestingEpochs.toNat ≤
            (present.epochOf 20).toNat ∧
          (past.epochLength = present.epochLength →
            time.toNat + (present.vestingEpochs.toNat - 1) * present.epochLength.toNat <
              (20 : UInt64).toNat) := by
  have within : lenient.check = .ok () := by decide
  have gold : (((system summing lenient).final [rating 1 80 0]).ingest summing
      (seconding 20)).answer.toOption.map (·.transition) = some (.promoted .unrated .gold) := by
    decide +kernel
  cases accepted : (((system summing lenient).final [rating 1 80 0]).ingest summing
      (seconding 20)).answer with
  | error error =>
    rw [accepted] at gold
    cases gold
  | ok result =>
    rw [accepted] at gold
    have promoted : result.transition = .promoted .unrated .gold := Option.some.inj gold
    exact ⟨within, result, rfl, promoted, promoted_after_waiting summing within _ accepted promoted⟩

/-- A configuration with vesting epochs of the given length, and bronze for everyone. -/
def paced (length : UInt64) : Config where
  tiers := { epochLength := length, vestingEpochs := 8, bronze := ⟨0, 100, 0⟩ }

/-- A feedback under epochs of a day, and then epochs of an hour. -/
def hastened : List Call := [rating 1 80 1700000000, .updateConfig (paced 3600)]

/-- **Shorter epochs cut vesting short.** Epochs of a day are made epochs of an hour, and a feedback
one second after the first one confirms a tier. No feedback of the run is more than seven of the
shorter epochs old, let alone of the longer ones. -/
theorem promoted_by_shorter_epochs :
    (paced 86400).check = .ok () ∧ (paced 3600).check = .ok () ∧
    ((system summing (paced 86400)).final hastened).config.tiers = (paced 3600).tiers ∧
    (((system summing (paced 86400)).final hastened).ingest summing
        (seconding 1700000001)).answer.toOption.map (·.transition) =
      some (.promoted .unrated .bronze) ∧
    ¬ ∃ entry ∈ (system summing (paced 86400)).history hastened,
      ∃ time ∈ entry.reply.scoredAt? ⟨1⟩,
        time.toNat + ((paced 3600).tiers.vestingEpochs.toNat - 1) *
          (paced 3600).tiers.epochLength.toNat < 1700000001 := by
  refine ⟨by decide, by decide, by decide +kernel, by decide +kernel, ?_⟩
  rintro ⟨entry, member, time, scored, waited⟩
  have times : ((system summing (paced 86400)).history hastened).map (·.reply.scoredAt? ⟨1⟩) =
      [some 1700000000, none] := by decide +kernel
  have known : entry.reply.scoredAt? ⟨1⟩ ∈
      ((system summing (paced 86400)).history hastened).map (·.reply.scoredAt? ⟨1⟩) :=
    List.mem_map_of_mem member
  rw [times, Option.mem_def.mp scored] at known
  obtain rfl : time = 1700000000 := by simpa using known
  revert waited
  decide

end Engine

end Reputation
