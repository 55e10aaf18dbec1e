/-
**Counting is adding.**

Whatever is counted, a fixed amount is added to the counters, and the amount is told by the answer
to the event and by what was reported meanwhile. Since sums do not depend on the order of what is
added, neither do the counters.

* `Metrics.Adds`: a way to count that adds a fixed amount.
* `Adds.comm`: two such ways may change places.
* `adds_report`: counting an event by its answer and report is such a way.
-/

import Reputation.Proofs.Engine.Run

namespace Reputation

/-- What an event is answered, and what was reported meanwhile. -/
structure Engine.Report where
  reply : Engine.Reply
  log : List LogEntry

namespace Metrics

/-! ### Sums of counters -/

/-- The counters of two metrics added up, each a word that starts again at zero when it is full. -/
def plus (first second : Metrics) : Metrics where
  ingests := first.ingests + second.ingests
  uniqueIngests := first.uniqueIngests + second.uniqueIngests
  ringInserts := first.ringInserts + second.ringInserts
  ringOverwrites := first.ringOverwrites + second.ringOverwrites
  ringEvictions := first.ringEvictions + second.ringEvictions
  bypassWrites := first.bypassWrites + second.bypassWrites
  revokesWithImpact := first.revokesWithImpact + second.revokesWithImpact
  revokesWithoutImpact := first.revokesWithoutImpact + second.revokesWithoutImpact
  responses := first.responses + second.responses
  rejected := first.rejected + second.rejected
  promotions := first.promotions + second.promotions
  demotions := first.demotions + second.demotions

theorem plus_assoc (first second third : Metrics) :
    (first.plus second).plus third = first.plus (second.plus third) := by
  simp only [plus, UInt64.add_assoc]

theorem plus_comm (first second : Metrics) : first.plus second = second.plus first := by
  simp only [plus, UInt64.add_comm]

/-- A way to count that adds a fixed amount. -/
def Adds (count : Metrics → Metrics) : Prop :=
  ∃ amount, ∀ metrics, count metrics = metrics.plus amount

variable {one other : Metrics → Metrics}

theorem Adds.comp (adds : Adds one) (addsToo : Adds other) : Adds (one ∘ other) := by
  obtain ⟨amount, counts⟩ := adds
  obtain ⟨more, countsToo⟩ := addsToo
  refine ⟨more.plus amount, fun metrics => ?_⟩
  rw [Function.comp_apply, counts, countsToo, plus_assoc]

/-- **Two such ways to count may change places.** -/
theorem Adds.comm (adds : Adds one) (addsToo : Adds other) (metrics : Metrics) :
    one (other metrics) = other (one metrics) := by
  obtain ⟨amount, counts⟩ := adds
  obtain ⟨more, countsToo⟩ := addsToo
  rw [counts, countsToo, countsToo, counts, plus_assoc, plus_comm more amount, plus_assoc]

/-- What is added can be told from an engine that has counted nothing. -/
theorem Adds.eq_plus (adds : Adds one) (metrics : Metrics) :
    one metrics = metrics.plus (one {}) := by
  obtain ⟨amount, counts⟩ := adds
  have nothing : ({} : Metrics).plus amount = amount := by simp [plus]
  rw [counts, counts {}, nothing]

theorem adds_nothing : Adds id := ⟨{}, fun metrics => by simp [plus]⟩

theorem adds_rejected : Adds countRejected :=
  ⟨{ rejected := 1 }, fun metrics => by simp [plus, countRejected]⟩

theorem adds_response : Adds countResponse :=
  ⟨{ responses := 1 }, fun metrics => by simp [plus, countResponse]⟩

theorem adds_revoke (hadImpact : Bool) : Adds (·.countRevoke hadImpact) := by
  cases hadImpact with
  | true => exact ⟨{ revokesWithImpact := 1 }, fun metrics => by simp [plus, countRevoke]⟩
  | false => exact ⟨{ revokesWithoutImpact := 1 }, fun metrics => by simp [plus, countRevoke]⟩

theorem adds_transition (transition : Transition) : Adds (·.countTransition transition) := by
  cases transition with
  | unchanged => exact adds_nothing
  | promoted => exact ⟨{ promotions := 1 }, fun metrics => by simp [plus, countTransition]⟩
  | demoted => exact ⟨{ demotions := 1 }, fun metrics => by simp [plus, countTransition]⟩

theorem adds_placement (placement : Placement) : Adds (·.countPlacement placement) := by
  cases placement with
  | ringInsert => exact ⟨{ ringInserts := 1 }, fun metrics => by simp [plus, countPlacement]⟩
  | ringOverwrite =>
    exact ⟨{ ringOverwrites := 1 }, fun metrics => by simp [plus, countPlacement]⟩
  | ringEvict => exact ⟨{ ringEvictions := 1 }, fun metrics => by simp [plus, countPlacement]⟩
  | bypass | bypassOverwrite =>
    exact ⟨{ bypassWrites := 1 }, fun metrics => by simp [plus, countPlacement]⟩

theorem adds_ingest (placement : Placement) (isUnique : Bool) :
    Adds (·.countIngest placement isUnique) := by
  have seen : Adds fun metrics => { metrics with
      ingests := metrics.ingests + 1
      uniqueIngests :=
        if isUnique then metrics.uniqueIngests + 1 else metrics.uniqueIngests } :=
    ⟨{ ingests := 1, uniqueIngests := if isUnique then 1 else 0 }, fun metrics => by
      cases isUnique <;> simp [plus]⟩
  exact (adds_placement placement).comp seen

/-! ### Answers and reports -/

/-- Counts what an answer says of an accepted event. -/
def countReply (metrics : Metrics) : Engine.Reply → Metrics
  | .ingested _ (.ok result) => metrics.countIngest result.placement result.isUnique
  | .revoked _ (.ok result) => metrics.countRevoke result.hadImpact
  | .responded _ (.ok _) => metrics.countResponse
  | _ => metrics

/-- Counts what was reported of refusals and moves of tiers. -/
def countLogged (metrics : Metrics) : LogEntry → Metrics
  | .inputRejected _ _ _ => metrics.countRejected
  | .tierPromoted _ source target => metrics.countTransition (.promoted source target)
  | .tierDemoted _ source target => metrics.countTransition (.demoted source target)
  | _ => metrics

/-- Counts an event by its answer and what was reported meanwhile. -/
def countReport (metrics : Metrics) (report : Engine.Report) : Metrics :=
  report.log.foldl countLogged (metrics.countReply report.reply)

theorem adds_reply (reply : Engine.Reply) : Adds (·.countReply reply) := by
  rcases reply with ⟨event, _ | result⟩ | ⟨event, _ | result⟩ | ⟨event, _ | result⟩ | _
  · exact adds_nothing
  · exact adds_ingest result.placement result.isUnique
  · exact adds_nothing
  · exact adds_revoke result.hadImpact
  · exact adds_nothing
  · exact adds_response
  · exact adds_nothing

theorem adds_logged (entry : LogEntry) : Adds (·.countLogged entry) := by
  cases entry with
  | inputRejected => exact adds_rejected
  | tierPromoted entity source target => exact adds_transition (.promoted source target)
  | tierDemoted entity source target => exact adds_transition (.demoted source target)
  | _ => exact adds_nothing

theorem adds_log (log : List LogEntry) : Adds (log.foldl countLogged) := by
  induction log with
  | nil => exact adds_nothing
  | cons entry rest ih => exact ih.comp (adds_logged entry)

theorem adds_report (report : Engine.Report) : Adds (·.countReport report) :=
  (adds_log report.log).comp (adds_reply report.reply)

/-- A move of a confirmed tier is counted as it is reported. -/
theorem countLogged_transitionLog (metrics : Metrics) (entity : EntityId)
    (transition : Transition) :
    (Engine.transitionLog entity transition).foldl countLogged metrics =
      metrics.countTransition transition := by
  cases transition <;> rfl

end Metrics

end Reputation
