/-
**Loyalty takes time.**

A rater who comes back adds to the loyalty of an entity, provided that the rater's feedback before
is remembered and was long enough ago. Slots are written over in the ring and in the bypass list,
given up and taken again, so a feedback may find no slot of its rater although there was one. Still
loyalty cannot be had faster than by waiting: a slot always holds the latest feedback of its rater,
so the waits that count are apart from each other, and all of them lie between the rater's first
feedback and the last one. Who is forgotten meanwhile has waited for nothing.

* `Visit`, `Record.visit`: an accepted feedback with what the record made of it; `visitsTo` lists
  those of a run.
* `statistics_takeIn`: the statistics take in what `Record.visit` says.
* `Spaced`: the waits of one rater fit between the first visit and the last.
* `Paced`: what holds of a record and its visits.
* `Paced.wait`: a rater who returns has waited since the latest visit.
* `Paced.takeIn`, `Paced.settled`: what each event keeps.
* **`loyalty_takes_time`**: after every run.
-/

import Reputation.Proofs.Engine.Bookkeeping
import Reputation.Proofs.Engine.Metrics

namespace Reputation

/-! ### Repetitions -/

theorem Repetition.classify_eq_returning {previous : Option UInt64} {now delay : UInt64} :
    classify previous now delay = .returning ↔
      ∃ time, previous = some time ∧ delay.toNat ≤ now.toNat - time.toNat := by
  cases previous with
  | none => simp [classify]
  | some time =>
    unfold classify
    split <;> simp_all

namespace Statistics

variable (statistics : Statistics) (policy : StatisticsPolicy)

/-- A score adds to loyalty if its rater returns. -/
theorem loyalty_update (sample : Sample) :
    (statistics.update sample policy).loyalty.toNat =
      if sample.repetition = .returning then
        min loyaltyMax (statistics.loyalty.toNat + policy.loyaltyStep.toNat)
      else statistics.loyalty.toNat := by
  obtain ⟨score, gap, repetition⟩ := sample
  have added : (UInt8.ofNat (min (statistics.loyalty.toNat + policy.loyaltyStep.toNat)
      loyaltyMax)).toNat =
        min loyaltyMax (statistics.loyalty.toNat + policy.loyaltyStep.toNat) := by
    rw [Nat.min_comm]
    exact UInt8.toNat_ofNat_of_lt' (Nat.lt_of_le_of_lt (Nat.min_le_left _ _) (by decide))
  cases repetition with
  | returning => cases gap <;> exact added
  | fresh | rapid => cases gap <;> rfl

/-- A revocation leaves loyalty alone. -/
theorem loyalty_correct (revoked : UInt8) (liveMean : Option UInt8) :
    (statistics.correct revoked liveMean policy).loyalty = statistics.loyalty := by
  unfold correct
  cases liveMean <;> dsimp only <;> split <;> rfl

end Statistics

/-- The slot that a write finds is one of the same rater. -/
theorem Recency.WriteCase.previous {recency next : Recency} {policy : RingPolicy}
    {fresh slot : Slot} {outcome : WriteOutcome}
    (case : WriteCase recency policy fresh next outcome)
    (found : outcome.previous = some slot) :
    ∃ location, recency.slot? location = some slot ∧ slot.fingerprint = fresh.fingerprint := by
  cases case with
  | @overwritten location previous place holds =>
    cases found
    exact ⟨location, holds, fingerprint_of_find? place holds⟩
  | inserted | elapsed | forced | passed => cases found

/-- A revocation leaves raters and times of the slots as they are. -/
theorem Recency.RevokeCase.written {recency next : Recency} {fingerprint : Fingerprint}
    {sequence : UInt64} {lookup : RevokeLookup} {location : Location} {slot : Slot}
    (case : RevokeCase recency fingerprint sequence next lookup)
    (holds : next.slot? location = some slot) :
    ∃ earlier, recency.slot? location = some earlier ∧
      earlier.fingerprint = slot.fingerprint ∧ earlier.writtenAt = slot.writtenAt := by
  cases case with
  | absent | stale | repeated => exact ⟨slot, holds, rfl, rfl⟩
  | @struck place marked found held =>
    rw [setSlot_puts recency { marked with revoked := true } place location] at holds
    split at holds
    · rename_i here
      cases holds
      exact ⟨marked, here ▸ held, rfl, rfl⟩
    · exact ⟨slot, holds, rfl, rfl⟩

/-! ### Visits -/

/-- An accepted feedback, with the fingerprint under which its rater is known to the record and how
it stands to what was remembered of the rater. -/
structure Visit where
  event : Feedback
  rater : Fingerprint
  repetition : Repetition
deriving DecidableEq, Repr

/-- What a record makes of a feedback before it is taken in. -/
def Record.visit (record : Record) (hashing : Hashing) (config : Config) (event : Feedback) :
    Visit :=
  let rater := Fingerprint.of hashing record.salt event.entity event.rater
  let outcome :=
    (record.recency.write config.ring rater event.score event.sequence event.time).2
  { event
    rater
    repetition := .classify (outcome.previous.map (·.writtenAt)) event.time
      config.statistics.loyaltyDelay }

/-- The statistics take in what the record made of the feedback. -/
theorem Record.statistics_takeIn (record : Record) (hashing : Hashing) (config : Config)
    (event : Feedback) :
    (record.takeIn hashing config event).record.statistics = record.statistics.update
      ⟨event.score, record.gapAt event.time, (record.visit hashing config event).repetition⟩
      config.statistics := rfl

/-- The visits of one rater. -/
def visitsOf (rater : Fingerprint) (visits : List Visit) : List Visit :=
  visits.filter (·.rater = rater)

/-- How often a rater returned. -/
def returns (visits : List Visit) : Nat := visits.countP (·.repetition = .returning)

variable {visits own : List Visit} {visit : Visit} {rater : Fingerprint}

theorem visitsOf_concat_self : visitsOf visit.rater (visits ++ [visit]) =
    visitsOf visit.rater visits ++ [visit] := by
  simp [visitsOf]

theorem visitsOf_concat_of_ne (apart : visit.rater ≠ rater) :
    visitsOf rater (visits ++ [visit]) = visitsOf rater visits := by
  simp [visitsOf, apart]

theorem returns_concat : returns (visits ++ [visit]) =
    returns visits + if visit.repetition = .returning then 1 else 0 := by
  simp [returns]

theorem returns_visitsOf (rater : Fingerprint) (visits : List Visit) :
    returns (visitsOf rater visits) =
      ((visits.filter (·.repetition = .returning)).filter (·.rater = rater)).length := by
  rw [returns, visitsOf, List.countP_eq_length_filter, List.filter_comm]

/-- Every return is the return of one rater. -/
theorem sum_returns (visits : List Visit) :
    ((visits.map (·.rater)).dedup.map fun rater => returns (visitsOf rater visits)).sum =
      returns visits := by
  have among : ∀ visit ∈ visits.filter (·.repetition = .returning),
      visit.rater ∈ (visits.map (·.rater)).dedup := fun visit member =>
    List.mem_dedup.mpr (List.mem_map_of_mem (List.mem_of_mem_filter member))
  simp only [returns_visitsOf]
  rw [Engine.sum_length_filter (List.nodup_dedup _) among, returns,
    List.countP_eq_length_filter]

/-! ### Spacing -/

/-- From the first visit to the last one there is time for a delay before every return. -/
def Spaced (delay : Nat) (visits : List Visit) : Prop :=
  ∀ first ∈ visits.head?, ∀ last ∈ visits.getLast?,
    first.event.time.toNat + returns visits * delay ≤ last.event.time.toNat

theorem spaced_nil (delay : Nat) : Spaced delay [] := by
  intro first none
  cases none

/-- One more visit keeps the spacing, if it is a return only after a delay since the one before. -/
theorem Spaced.concat {delay : Nat} (spaced : Spaced delay own)
    (later : ∀ last ∈ own.getLast?, last.event.time ≤ visit.event.time)
    (waited : visit.repetition = .returning →
      ∃ last ∈ own.getLast?, last.event.time.toNat + delay ≤ visit.event.time.toNat) :
    Spaced delay (own ++ [visit]) := by
  intro first opens last closes
  obtain rfl : visit = last := Option.some.inj (List.getLast?_concat.symm.trans closes)
  rw [returns_concat]
  cases own with
  | nil =>
    obtain rfl : visit = first := Option.some.inj opens
    have stays : visit.repetition ≠ .returning := fun returning => by
      obtain ⟨_, none, -⟩ := waited returning
      cases none
    rw [if_neg stays]
    simp [returns]
  | cons opening rest =>
    obtain ⟨before, closed⟩ : ∃ before, (opening :: rest).getLast? = some before :=
      ⟨_, List.getLast?_eq_some_getLast (List.cons_ne_nil opening rest)⟩
    obtain rfl : opening = first := Option.some.inj opens
    have sofar := spaced opening rfl before closed
    split
    · rename_i returning
      obtain ⟨_, same, gap⟩ := waited returning
      cases closed.symm.trans same
      rw [Nat.add_mul, Nat.one_mul]
      omega
    · have timely := UInt64.le_iff_toNat_le.mp (later before closed)
      rw [Nat.add_zero]
      omega

/-! ### Records and their visits -/

/-- What holds of a record and of the visits that made it. -/
structure Paced (hashing : Hashing) (policy : StatisticsPolicy) (visits : List Visit)
    (record : Record) : Prop where
  /-- Raters are known by their fingerprints under the record's salt. -/
  known : ∀ visit ∈ visits,
    visit.rater = .of hashing record.salt visit.event.entity visit.event.rater
  past : ∀ visit ∈ visits, visit.event.time ≤ record.lastSeen
  distinct : record.recency.Distinct
  /-- A slot was written at the latest visit of its rater. -/
  latest : ∀ location slot, record.recency.slot? location = some slot →
    (visitsOf slot.fingerprint visits).getLast?.map (·.event.time) = some slot.writtenAt
  spaced : ∀ rater, Spaced policy.loyaltyDelay.toNat (visitsOf rater visits)
  loyalty : record.statistics.loyalty.toNat =
    min loyaltyMax (policy.loyaltyStep.toNat * returns visits)

theorem paced_empty (hashing : Hashing) (policy : StatisticsPolicy) (entity : EntityId)
    (salt firstSeen : UInt64) : Paced hashing policy [] (.empty entity salt firstSeen) where
  known _ absent := (List.not_mem_nil absent).elim
  past _ absent := (List.not_mem_nil absent).elim
  distinct := Recency.distinct_empty firstSeen
  latest location slot holds := by
    rw [show (Record.empty entity salt firstSeen).recency = .empty firstSeen from rfl,
      Recency.slot?_empty] at holds
    cases holds
  spaced _ := spaced_nil _
  loyalty := rfl

variable {hashing : Hashing} {config : Config} {record : Record} {event : Feedback}

theorem mem_of_last {last : Visit} (closes : last ∈ (visitsOf rater visits).getLast?) :
    last ∈ visits :=
  List.mem_of_mem_filter (List.mem_of_getLast? closes)

/-- **A rater who returns has waited since the latest visit.** The slot that was found holds its
time, whatever became of other slots. -/
theorem Paced.wait (paced : Paced hashing config.statistics visits record)
    (timely : record.lastSeen ≤ event.time)
    (returning : (record.visit hashing config event).repetition = .returning) :
    ∃ last ∈ (visitsOf (record.visit hashing config event).rater visits).getLast?,
      last.event.time.toNat + config.statistics.loyaltyDelay.toNat ≤ event.time.toNat := by
  obtain ⟨written, remembered, gap⟩ := Repetition.classify_eq_returning.mp returning
  obtain ⟨slot, found, rfl⟩ := Option.map_eq_some_iff.mp remembered
  obtain ⟨location, holds, same⟩ := (Recency.write_cases _ _ _ _ _ _).previous found
  have latest := paced.latest location slot holds
  rw [same] at latest
  obtain ⟨last, closes, timed⟩ := Option.map_eq_some_iff.mp latest
  refine ⟨last, closes, ?_⟩
  -- The gap is a truncated difference, so it says nothing by itself if there is no delay.
  have before := UInt64.le_iff_toNat_le.mp (paced.past last (mem_of_last closes))
  have after := UInt64.le_iff_toNat_le.mp timely
  rw [← timed] at gap
  omega

/-- **A feedback that is taken in is one more visit.** -/
theorem Paced.takeIn (paced : Paced hashing config.statistics visits record)
    (timely : record.lastSeen ≤ event.time) :
    Paced hashing config.statistics (visits ++ [record.visit hashing config event])
      (record.takeIn hashing config event).record where
  known visit member := by
    rcases List.mem_append.mp member with before | here
    · exact paced.known visit before
    · cases List.mem_singleton.mp here
      rfl
  past visit member := by
    rcases List.mem_append.mp member with before | here
    · exact UInt64.le_trans (paced.past visit before) timely
    · cases List.mem_singleton.mp here
      exact UInt64.le_refl _
  distinct := by
    obtain ⟨outcome, case⟩ := record.noted_recency hashing config event
    exact case.distinct paced.distinct
  latest location slot holds := by
    obtain ⟨outcome, case⟩ := record.noted_recency hashing config event
    obtain ⟨place, puts, owned⟩ := case.puts
    rcases puts.held (owned paced.distinct) holds with ⟨-, rfl⟩ | ⟨-, before, apart⟩
    · show (visitsOf (record.visit hashing config event).rater _).getLast?.map _ = _
      rw [visitsOf_concat_self, List.getLast?_concat]
      rfl
    · rw [visitsOf_concat_of_ne (Ne.symm apart)]
      exact paced.latest location slot before
  spaced rater := by
    by_cases same : (record.visit hashing config event).rater = rater
    · subst same
      rw [visitsOf_concat_self]
      refine (paced.spaced _).concat (fun last closes => ?_) (paced.wait timely)
      exact UInt64.le_trans (paced.past last (mem_of_last closes)) timely
    · rw [visitsOf_concat_of_ne same]
      exact paced.spaced rater
  loyalty := by
    rw [Record.statistics_takeIn, Statistics.loyalty_update, returns_concat, paced.loyalty]
    split
    · rw [Nat.mul_add, Nat.mul_one]
      omega
    · rw [Nat.add_zero]

/-- **A revocation is no visit.** It marks a slot and leaves its time. -/
theorem Paced.settled (paced : Paced hashing config.statistics visits record)
    {event : Revocation} {recency : Recency} {lookup : RevokeLookup} (score : UInt8)
    (found : record.lookUp hashing event = (recency, lookup)) :
    Paced hashing config.statistics visits
      ({ record with recency }.settled hashing config event score).1 where
  known := paced.known
  past := paced.past
  distinct := (Record.lookUp_case found).distinct paced.distinct
  latest location slot holds := by
    obtain ⟨earlier, held, same, timed⟩ := (Record.lookUp_case found).written holds
    rw [← same, ← timed]
    exact paced.latest location earlier held
  spaced := paced.spaced
  loyalty := by
    rw [Record.record_settled]
    exact (congrArg UInt8.toNat (Statistics.loyalty_correct _ _ _ _)).trans paced.loyalty

namespace Engine

/-! ### Runs -/

/-- What is made of a reply if it is an accepted feedback on an entity: the visit, by the record
that was there before. -/
def Reply.visit? (hashing : Hashing) (config : Config) (entity : EntityId)
    (current : Option Record) : Reply → Option Visit
  | .ingested event (.ok _) =>
    if event.entity = entity then
      (Record.opened hashing current event).toOption.map (·.visit hashing config event)
    else none
  | _ => none

/-- The visits to an entity in a run. -/
def visitsTo (hashing : Hashing) (entity : EntityId) (stages : List (Stage Engine Entry)) :
    List Visit :=
  stages.filterMap fun stage =>
    stage.entry.reply.visit? hashing stage.entry.config entity (stage.before.record? entity)

variable {entity : EntityId} {reply : Reply} {stages : List (Stage Engine Entry)}

theorem visit?_of_silent {current : Option Record} (silent : reply.accepted? entity = none) :
    reply.visit? hashing config entity current = none := by
  rcases reply with ⟨event, _ | result⟩ | ⟨event, answer⟩ | ⟨event, answer⟩ | ⟨config, answer⟩
  case ingested.ok =>
    refine if_neg fun about => ?_
    rw [Reply.accepted?, if_pos about] at silent
    cases silent
  all_goals rfl

theorem visitsTo_concat (before after : Engine) :
    visitsTo hashing entity (stages ++ [⟨before, ⟨config, reply⟩, after⟩]) =
      visitsTo hashing entity stages ++
        (reply.visit? hashing config entity (before.record? entity)).toList := by
  rw [visitsTo, List.filterMap_append, visitsTo, List.filterMap_cons]
  cases reply.visit? hashing config entity (before.record? entity) <;> rfl

/-- The visits to an entity, if there is a record, are those that made it. -/
def Visited (hashing : Hashing) (policy : StatisticsPolicy) (visits : List Visit)
    (taken : List Feedback) : Option Record → Prop
  | none => visits = [] ∧ taken = []
  | some record => visits.map (·.event) = taken ∧ Paced hashing policy visits record

/-- **Every effect keeps a record and its visits in step.** -/
theorem Visited.step {before after : Option Record} {history : List Entry}
    (visited : Visited hashing config.statistics visits (feedbacksOn entity history) before)
    (effect : Effect hashing config entity before reply after) :
    Visited hashing config.statistics
      (visits ++ (reply.visit? hashing config entity before).toList)
      (feedbacksOn entity (history ++ [⟨config, reply⟩])) after := by
  cases effect with
  | kept still =>
    have silent := accepted?_of_still still
    rw [visit?_of_silent silent, Option.toList_none, List.append_nil,
      feedbacksOn_concat_of_still silent]
    exact visited
  | @ingested _ record event about checked entered room =>
    have here : Reply.visit? hashing config entity before
        (.ingested event (.ok (record.takeIn hashing config event).result)) =
          some (record.visit hashing config event) := by
      rw [Reply.visit?, if_pos about, entered]
      rfl
    rw [here, Option.toList_some, feedbacksOn_concat_ingested about, Visited, List.map_append]
    rcases Record.opened_eq_ok.mp entered with ⟨rfl, timely⟩ | ⟨rfl, rfl⟩
    · obtain ⟨taken, paced⟩ := visited
      exact ⟨by rw [taken]; rfl, paced.takeIn timely⟩
    · obtain ⟨rfl, none⟩ := visited
      rw [none]
      exact ⟨rfl, (paced_empty hashing _ _ _ _).takeIn (UInt64.le_refl _)⟩
  | revoked about checked timely found room settles =>
    subst settles
    obtain ⟨taken, paced⟩ := visited
    rw [visit?_of_silent rfl, Option.toList_none, List.append_nil, feedbacksOn_concat_of_still rfl]
    exact ⟨taken, paced.settled _ found⟩
  | responded about checked room =>
    obtain ⟨taken, paced⟩ := visited
    rw [visit?_of_silent rfl, Option.toList_none, List.append_nil, feedbacksOn_concat_of_still rfl]
    exact ⟨taken, { paced with }⟩

/-- **Loyalty takes time.** Take any run of feedbacks, revocations and responses under one
configuration, within bounds or not and under any hash function, and any entity. Its visits are its
accepted feedbacks, each with the fingerprint of its rater and with what the engine made of it. For
every fingerprint, the time from its first visit to its last one has room for the loyalty delay as
often as it returned. And the loyalty of the entity is the loyalty step times all returns of all its
raters, up to the highest loyalty. -/
theorem loyalty_takes_time (hashing : Hashing) (config : Config) (events : List Event)
    (entity : EntityId) :
    let visits := visitsTo hashing entity ((steadily hashing config).staged.history events)
    let current := ((steadily hashing config).final events).record? entity
    visits.map (·.event) = feedbacksOn entity ((steadily hashing config).history events) ∧
      (∀ rater, ∀ first ∈ (visitsOf rater visits).head?,
        ∀ last ∈ (visitsOf rater visits).getLast?,
          first.event.time.toNat +
              returns (visitsOf rater visits) * config.statistics.loyaltyDelay.toNat ≤
            last.event.time.toNat) ∧
      ((visits = [] ∧ current = none) ∨ ∃ record, current = some record ∧
        (∀ visit ∈ visits,
          visit.rater = .of hashing record.salt visit.event.entity visit.event.rater) ∧
        record.statistics.loyalty.toNat =
          min loyaltyMax (config.statistics.loyaltyStep.toNat *
            ((visits.map (·.rater)).dedup.map fun rater =>
              returns (visitsOf rater visits)).sum)) := by
  intro visits current
  have visited : Visited hashing config.statistics visits
      (feedbacksOn entity ((steadily hashing config).history events)) current := by
    rw [← System.map_entry_staged]
    refine staged_invariant (fun stages => Visited hashing config.statistics
      (visitsTo hashing entity stages) (feedbacksOn entity (stages.map (·.entry))))
      ⟨rfl, rfl⟩ ?_ events
    intro stages reply before after visited effect
    rw [visitsTo_concat, List.map_append]
    exact visited.step effect
  cases known : current with
  | none =>
    rw [known] at visited
    obtain ⟨none, silent⟩ := visited
    rw [none, silent]
    exact ⟨rfl, fun _ => spaced_nil _, .inl ⟨rfl, rfl⟩⟩
  | some record =>
    rw [known] at visited
    obtain ⟨taken, paced⟩ := visited
    refine ⟨taken, paced.spaced, .inr ⟨record, rfl, paced.known, ?_⟩⟩
    rw [sum_returns, paced.loyalty]

/-- Configuration under which a rater returns after ten seconds. -/
def cordial : Config where
  statistics := { loyaltyDelay := 10, loyaltyStep := 3 }

/-- A rater who comes back once too soon and, after a revocation, twice in time; and another one. -/
def regulars : List Event :=
  [rate 1 80 0, rate 1 70 5, .revocation ⟨⟨1⟩, ⟨.ofSeed 1⟩, 1, 9, ⟨.fill 0⟩⟩, rate 1 90 20,
    rate 2 90 25, rate 1 60 31]

/-- Two returns are worth two steps of loyalty, and take two delays. -/
theorem loyalty_of_regulars :
    let visits := visitsTo summing ⟨1⟩ ((steadily summing cordial).staged.history regulars)
    visits.map (·.repetition) = [.fresh, .rapid, .returning, .fresh, .returning] ∧
      (∀ rater, ∀ first ∈ (visitsOf rater visits).head?,
        ∀ last ∈ (visitsOf rater visits).getLast?,
          first.event.time.toNat + returns (visitsOf rater visits) * 10 ≤
            last.event.time.toNat) ∧
      ∃ record, ((steadily summing cordial).final regulars).record? ⟨1⟩ = some record ∧
        record.statistics.loyalty = 6 := by
  intro visits
  have repetitions : visits.map (·.repetition) =
      [.fresh, .rapid, .returning, .fresh, .returning] := by decide +kernel
  obtain ⟨-, spaced, ⟨none, -⟩ | ⟨record, known, -, loyalty⟩⟩ :=
    loyalty_takes_time summing cordial regulars ⟨1⟩
  · rw [show visits = [] from none] at repetitions
    cases repetitions
  · have twice : returns visits = 2 := by decide +kernel
    rw [sum_returns, twice] at loyalty
    exact ⟨repetitions, spaced, record, known, UInt8.toNat_inj.mp loyalty⟩

end Engine

end Reputation
