/-
**The counters agree with the records.**

Each counter of the engine counts the turns of a kind, and nothing else moves it. What is counted of
feedbacks, revocations and responses is also the sum of the counters of all records, and the moves
between tiers that are counted are those that can be seen by comparing the tier of an entity before
and after an event on it.

* `tally`: the counters that some turns make up.
* `metrics_call`: every call adds its own turn to the counters.
* `sum_count`: the counters of all records sum up to the leaves of all entities.
* `Agrees`, **`metrics_agree`**: the counters after a run of requests.
-/

import Mathlib.Algebra.BigOperators.Group.List.Basic
import Mathlib.Data.List.Nodup
import Reputation.Proofs.Engine.Accounts
import Reputation.Proofs.Engine.Time
import Reputation.Proofs.Engine.Turns

namespace Reputation

/-! ### Refusals -/

/-- Whether an error says that an event is invalid, or that a counter of its record is full. -/
def Error.isRefusal : Error → Bool
  | .validation _ | .overflow _ => true
  | _ => false

namespace Record

variable {hashing : Hashing} {config : Config} {current : Option Record} {error : Error}

theorem isRefusal_of_ingest {event : Feedback}
    (failed : ingest hashing config current event = .error error) : error.isRefusal = true := by
  cases ingest_refusal failed with
  | malformed failed =>
    obtain ⟨_, rfl, -⟩ := fault_of_check failed
    rfl
  | late | full => rfl

theorem isRefusal_of_revoke {event : Revocation}
    (failed : revoke hashing config current event = .error error) : error.isRefusal = true := by
  cases revoke_refusal failed with
  | malformed failed =>
    obtain ⟨_, rfl, -⟩ := fault_of_checkSequence failed
    rfl
  | late | full => rfl

theorem isRefusal_of_respond {record : Record} {event : Response}
    (failed : respond hashing (some record) event = .error error) : error.isRefusal = true := by
  rcases bind_eq_error.mp failed with unchecked | ⟨_, -, failed⟩
  · obtain ⟨_, rfl, -⟩ := fault_of_checkSequence unchecked
    rfl
  · rcases bind_eq_error.mp failed with full | ⟨_, -, failed⟩
    · obtain ⟨-, rfl⟩ := increment_eq_error.mp full
      rfl
    · cases failed

end Record

theorem Config.not_isRefusal_of_check {config : Config} {error : Error}
    (failed : config.check = .error error) : error.isRefusal = false := by
  unfold check at failed
  cases broken : config.boundsFault with
  | error fault =>
    rw [broken] at failed
    cases failed
    rfl
  | ok => rw [broken] at failed; cases failed

/-! ### Places -/

namespace Placement

/-- Whether a feedback took a free slot of the ring. -/
def isInsert : Placement → Bool
  | .ringInsert => true
  | _ => false

/-- Whether a feedback went over the slot of the same rater in the ring. -/
def isOverwrite : Placement → Bool
  | .ringOverwrite => true
  | _ => false

/-- Whether a feedback took the slot of another rater. -/
def isEviction : Placement → Bool
  | .ringEvict _ => true
  | _ => false

end Placement

/-! ### Moves between tiers -/

/-- Scoring a record moves its tier by the transition that it tells. -/
theorem Record.moved_rescore (record : Record) (epoch : UInt64) (config : Config) :
    Moved (record.rescore epoch config).2 record.trustTier
      (record.rescore epoch config).1.trustTier := by
  obtain ⟨tier, advance, scored⟩ := record.rescore_cases epoch config
  rw [scored]
  exact advance.moved

theorem Record.moved_takeIn (record : Record) (hashing : Hashing) (config : Config)
    (event : Feedback) :
    Moved (record.takeIn hashing config event).result.transition record.trustTier
      (record.takeIn hashing config event).record.trustTier :=
  moved_rescore (record.noted hashing config event) (config.tiers.epochOf event.time) config

theorem Record.moved_settled (record : Record) (hashing : Hashing) (config : Config)
    (event : Revocation) (score : UInt8) :
    Moved (record.settled hashing config event score).2 record.trustTier
      (record.settled hashing config event score).1.trustTier :=
  moved_rescore (record.corrected config score) (config.tiers.epochOf event.time) config

namespace Engine

/-! ### What is counted -/

/-- Whether a feedback was accepted. -/
def Reply.isIngest : Reply → Bool
  | .ingested _ (.ok _) => true
  | _ => false

/-- Whether a feedback was accepted and written to a place of a kind. -/
def Reply.wentTo (kind : Placement → Bool) : Reply → Bool
  | .ingested _ (.ok result) => kind result.placement
  | _ => false

/-- Whether a feedback was accepted and counted as that of a new rater. -/
def Reply.isUnique : Reply → Bool
  | .ingested _ (.ok result) => result.isUnique
  | _ => false

/-- Whether a revocation was answered without an error. -/
def Reply.isRevoke : Reply → Bool
  | .revoked _ (.ok _) => true
  | _ => false

/-- Whether a revocation had impact. -/
def Reply.hasImpact : Reply → Bool
  | .revoked _ (.ok result) => result.hadImpact
  | _ => false

/-- Whether a response was accepted. -/
def Reply.isResponse : Reply → Bool
  | .responded _ (.ok _) => true
  | _ => false

/-- Whether a call was refused as invalid or because a counter was full. -/
def Reply.isRefusal : Reply → Bool
  | .ingested _ (.error error) | .revoked _ (.error error) | .responded _ (.error error)
  | .configured _ (.error error) => error.isRefusal
  | _ => false

/-- Whether a call is a feedback or a revocation. -/
def Reply.isRating : Reply → Bool
  | .ingested _ _ | .revoked _ _ => true
  | _ => false

/-- Whether the tier of the entity was higher after a feedback or a revocation than before. -/
def Turn.rises (turn : Turn) : Bool := turn.reply.isRating && turn.before < turn.after

/-- Whether the tier of the entity was lower after a feedback or a revocation than before. -/
def Turn.falls (turn : Turn) : Bool := turn.reply.isRating && turn.after < turn.before

/-- The counters that some turns make up. -/
def tally (turns : List Turn) : Metrics where
  ingests := .ofNat (turns.countP (·.reply.isIngest))
  uniqueIngests := .ofNat (turns.countP (·.reply.isUnique))
  ringInserts := .ofNat (turns.countP (·.reply.wentTo Placement.isInsert))
  ringOverwrites := .ofNat (turns.countP (·.reply.wentTo Placement.isOverwrite))
  ringEvictions := .ofNat (turns.countP (·.reply.wentTo Placement.isEviction))
  bypassWrites := .ofNat (turns.countP (·.reply.wentTo Placement.isBypass))
  revokesWithImpact := .ofNat (turns.countP (·.reply.hasImpact))
  revokesWithoutImpact :=
    .ofNat (turns.countP fun turn => turn.reply.isRevoke && !turn.reply.hasImpact)
  responses := .ofNat (turns.countP (·.reply.isResponse))
  rejected := .ofNat (turns.countP (·.reply.isRefusal))
  promotions := .ofNat (turns.countP Turn.rises)
  demotions := .ofNat (turns.countP Turn.falls)

variable {engine : Engine} {hashing : Hashing} {config : Config} {entity : EntityId}
  {reply : Reply} {before after tier : Tier} {transition : Transition}

theorem tally_append (turns others : List Turn) :
    tally (turns ++ others) = (tally turns).plus (tally others) := by
  simp only [tally, Metrics.plus, List.countP_append, UInt64.ofNat_add]

theorem tally_singleton (turn : Turn) (counts : Turn → Bool) :
    UInt64.ofNat ([turn].countP counts) = if counts turn then 1 else 0 := by
  rw [List.countP_singleton]
  split <;> rfl

/-- A call that is refused is counted as such. -/
theorem tally_refused (refused : reply.isRefusal = true) :
    tally [⟨reply, tier, tier⟩] = ({} : Metrics).countRejected := by
  have level : ¬ tier < tier := Nat.lt_irrefl _
  rcases reply with ⟨event, _ | result⟩ | ⟨event, _ | result⟩ | ⟨event, _ | result⟩ | ⟨_, _ | _⟩
  case ingested.ok | revoked.ok | responded.ok | configured.ok => cases refused
  all_goals
    simp only [tally, tally_singleton, refused, Turn.rises, Turn.falls, level]
    rfl

/-- A feedback or a revocation that is not refused is counted by its reply and by the move of the
tier. -/
theorem tally_moved (moved : Moved transition before after) (rating : reply.isRating = true)
    (heeded : reply.isRefusal = false) :
    tally [⟨reply, before, after⟩] =
      (({} : Metrics).countReply reply).countTransition transition := by
  simp only [tally, tally_singleton, heeded, Turn.rises, Turn.falls, rating, moved.rises_iff,
    moved.falls_iff, Bool.true_and]
  rcases reply with ⟨event, _ | ⟨_, _, _, _, _, _, _ | _, _ | _ | _ | _ | _, _⟩⟩ |
    ⟨event, _ | ⟨_, _, _ | _, _, _, _, _⟩⟩ | _ | _
  case responded | configured => cases rating
  all_goals cases transition <;> rfl

/-- Any other call that is not refused is counted by its reply. -/
theorem tally_other (other : reply.isRating = false) (heeded : reply.isRefusal = false) :
    tally [⟨reply, before, after⟩] = ({} : Metrics).countReply reply := by
  simp only [tally, tally_singleton, heeded, Turn.rises, Turn.falls, other, Bool.false_and]
  rcases reply with _ | _ | ⟨event, _ | result⟩ | _
  case ingested | revoked => cases other
  all_goals rfl

/-! ### One call -/

theorem tierOf_of_record? {record : Record} (known : engine.record? entity = some record) :
    engine.tierOf entity = record.trustTier := by
  rw [tierOf, known]
  rfl

/-- The tier of an entity is that of the record that a feedback on it is taken into. -/
theorem tierOf_of_opened {event : Feedback} {record : Record}
    (entered : Record.opened hashing (engine.record? entity) event = .ok record) :
    engine.tierOf entity = record.trustTier := by
  rcases Record.opened_eq_ok.mp entered with ⟨known, -⟩ | ⟨absent, rfl⟩
  · exact tierOf_of_record? known
  · rw [tierOf, absent]
    rfl

theorem tierOf_keepRevoked_of_none (event : Revocation) {revoked : Revoked}
    (missed : revoked.record = none) :
    (engine.keepRevoked event revoked).engine.tierOf entity = engine.tierOf entity := by
  rw [tierOf, record?_keepRevoked_of_none event missed]
  rfl

theorem tierOf_keepRevoked_of_some (event : Revocation) {revoked : Revoked} {record : Record}
    (struck : revoked.record = some record) :
    (engine.keepRevoked event revoked).engine.tierOf event.entity = record.trustTier :=
  tierOf_of_record? ((record?_keepRevoked_of_some event struck).trans (if_pos rfl))

theorem metrics_ingest (engine : Engine) (hashing : Hashing) (event : Feedback) :
    (engine.ingest hashing event).engine.metrics =
      engine.metrics.plus (tally [engine.turn hashing (.ingest event)]) := by
  show (engine.applyIngest hashing event).engine.metrics = engine.metrics.plus
    (tally [⟨.ingested event (engine.applyIngest hashing event).answer, engine.tierOf event.entity,
      (engine.applyIngest hashing event).engine.tierOf event.entity⟩])
  rw [applyIngest_eq]
  split
  · rename_i error failed
    have refused : (Reply.ingested event (.error error)).isRefusal = true :=
      Record.isRefusal_of_ingest failed
    exact (Metrics.adds_rejected.eq_plus _).trans (congrArg _ (tally_refused refused).symm)
  · rename_i ingested accepted
    obtain ⟨record, -, entered, -, rfl⟩ := Record.ingest_eq_ok.mp accepted
    have last : (engine.keepIngested event
        (record.takeIn hashing engine.config event)).engine.tierOf event.entity =
          (record.takeIn hashing engine.config event).record.trustTier :=
      tierOf_of_record? ((record?_keepIngested event _).trans (if_pos rfl))
    have moved := record.moved_takeIn hashing engine.config event
    rw [last, tierOf_of_opened entered]
    rw [tally_moved moved rfl rfl]
    exact ((Metrics.adds_transition _).comp (Metrics.adds_ingest _ _)).eq_plus _

theorem metrics_revoke (engine : Engine) (hashing : Hashing) (event : Revocation) :
    (engine.revoke hashing event).engine.metrics =
      engine.metrics.plus (tally [engine.turn hashing (.revoke event)]) := by
  show (engine.applyRevoke hashing event).engine.metrics = engine.metrics.plus
    (tally [⟨.revoked event (engine.applyRevoke hashing event).answer, engine.tierOf event.entity,
      (engine.applyRevoke hashing event).engine.tierOf event.entity⟩])
  unfold applyRevoke
  split
  · rename_i error failed
    have refused : (Reply.revoked event (.error error)).isRefusal = true :=
      Record.isRefusal_of_revoke failed
    exact (Metrics.adds_rejected.eq_plus _).trans (congrArg _ (tally_refused refused).symm)
  · rename_i revoked carried
    obtain ⟨-, outcome⟩ := Record.revoke_cases carried
    have moved : Moved revoked.transition (engine.tierOf event.entity)
        ((engine.keepRevoked event revoked).engine.tierOf event.entity) := by
      generalize known : engine.record? event.entity = current at outcome
      cases outcome with
      | unknown | missed | repeated =>
        rw [tierOf_keepRevoked_of_none event rfl]
        exact .level _
      | @struck record recency score location =>
        rw [tierOf_of_record? known, tierOf_keepRevoked_of_some event rfl]
        exact Record.moved_settled _ hashing engine.config event score
    show _ = engine.metrics.plus (tally [⟨.revoked event (.ok revoked.result), _, _⟩])
    rw [tally_moved moved rfl rfl]
    exact ((Metrics.adds_transition _).comp (Metrics.adds_revoke _)).eq_plus _

theorem metrics_respond (intact : engine.Intact) (hashing : Hashing) (event : Response) :
    (engine.respond hashing event).engine.metrics =
      engine.metrics.plus (tally [engine.turn hashing (.respond event)]) := by
  show (engine.applyRespond hashing event).engine.metrics = engine.metrics.plus
    (tally [⟨.responded event (engine.applyRespond hashing event).answer,
      engine.tierOf event.entity, (engine.applyRespond hashing event).engine.tierOf event.entity⟩])
  unfold applyRespond
  split
  · rw [tally_other rfl rfl]
    exact Metrics.adds_nothing.eq_plus _
  · rename_i current slot
    obtain ⟨record, rfl, -⟩ := intact _ _ slot
    split
    · rename_i error failed
      have refused : (Reply.responded event (.error error)).isRefusal = true :=
        Record.isRefusal_of_respond failed
      exact (Metrics.adds_rejected.eq_plus _).trans (congrArg _ (tally_refused refused).symm)
    · rename_i responded accepted
      show _ = engine.metrics.plus (tally [⟨.responded event (.ok responded.result), _, _⟩])
      rw [tally_other rfl rfl]
      exact Metrics.adds_response.eq_plus _

/-- **Every call adds its own turn to the counters.** -/
theorem metrics_call (intact : engine.Intact) (hashing : Hashing) (call : Call) :
    (engine.call hashing call).1.metrics =
      engine.metrics.plus (tally [engine.turn hashing call]) := by
  cases call with
  | ingest event => exact metrics_ingest engine hashing event
  | revoke event => exact metrics_revoke engine hashing event
  | respond event => exact metrics_respond intact hashing event
  | updateConfig config =>
    show (engine.updateConfig config).engine.metrics = engine.metrics.plus
      (tally [⟨.configured config (engine.updateConfig config).answer, .unrated, .unrated⟩])
    unfold updateConfig
    split
    · rename_i error broken
      have heeded : (Reply.configured config (.error error)).isRefusal = false :=
        Config.not_isRefusal_of_check broken
      rw [tally_other rfl heeded]
      exact Metrics.adds_nothing.eq_plus _
    · rw [tally_other rfl rfl]
      exact Metrics.adds_nothing.eq_plus _

/-! ### The counters of all records -/

/-- Items sorted by keys that are all different are counted once each. -/
theorem sum_length_filter {Key Item : Type} [DecidableEq Key] {keys : List Key} {items : List Item}
    {key : Item → Key} (distinct : keys.Nodup) (among : ∀ item ∈ items, key item ∈ keys) :
    (keys.map fun which => (items.filter (key · = which)).length).sum = items.length := by
  induction items with
  | nil => simp
  | cons item rest ih =>
    obtain ⟨here, further⟩ := List.forall_mem_cons.mp among
    have split (which : Key) : ((item :: rest).filter (key · = which)).length =
        (rest.filter (key · = which)).length + if key item = which then 1 else 0 := by
      rw [List.filter_cons]
      split <;> simp_all
    have once : (keys.map fun which => if key item = which then 1 else 0).sum = 1 := by
      rw [List.sum_map_eq_nsmul_single (key item) _ fun other differs _ => if_neg differs.symm,
        List.count_eq_one_of_mem distinct here, if_pos rfl, one_nsmul]
    simp only [split, List.sum_map_add, once, ih further, List.length_cons]

/-- All leaves that belong into chains of a kind. -/
def allLeaves (kind : ChainKind) (history : List Entry) : List Leaf :=
  history.filterMap (·.reply.leaf? kind)

theorem leaves_eq_filter (kind : ChainKind) (entity : EntityId) (history : List Entry) :
    leaves kind entity history = (allLeaves kind history).filter (·.entity = entity) := by
  rw [allLeaves, List.filter_filterMap]
  rfl

/-- **The counters of all records sum up to the leaves of all entities.** -/
theorem sum_count {history : List Entry} (intact : engine.Intact)
    (counted : ∀ entity, Counted entity history (engine.record? entity)) (kind : ChainKind) :
    (engine.records.map fun record => (record.count kind).toNat).sum =
      (allLeaves kind history).length := by
  have distinct : (engine.records.map (·.entity)).Nodup := by
    rw [intact.entities_eq]
    exact Std.ExtTreeMap.nodup_keys
  have among : ∀ leaf ∈ allLeaves kind history, leaf.entity ∈ engine.records.map (·.entity) := by
    intro leaf member
    rw [intact.entities_eq, Std.ExtTreeMap.mem_keys]
    cases known : engine.record? leaf.entity with
    | some record => exact mem_slots_of_record? known
    | none =>
      have unheard := counted leaf.entity
      rw [known] at unheard
      have own : leaf ∈ leaves kind leaf.entity history := by
        rw [leaves_eq_filter]
        exact List.mem_filter.mpr ⟨member, decide_eq_true rfl⟩
      rw [unheard kind] at own
      cases own
  have each : ∀ record ∈ engine.records, (record.count kind).toNat =
      ((allLeaves kind history).filter (·.entity = record.entity)).length := by
    intro record member
    have books := counted record.entity
    rw [(mem_records intact).mp member] at books
    rw [books kind, leaves_eq_filter]
  rw [← sum_length_filter distinct among, List.map_map, List.map_congr_left each]
  rfl

/-! ### Counters that are not full -/

/-- Whether a call is a feedback, a revocation or a response. -/
def Call.isEvent (call : Call) : Bool := call.entity?.isSome

/-- **No more events of a kind are counted than there are events.** -/
theorem countP_turns_le {counts : Turn → Bool}
    (only : ∀ engine call, counts (turn engine hashing call) = true → call.isEvent = true)
    (engine : Engine) (calls : List Call) :
    ((watching hashing config).historyFrom engine calls).countP counts ≤
      calls.countP Call.isEvent := by
  induction calls generalizing engine with
  | nil => exact Nat.le_refl 0
  | cons call rest ih =>
    have further := ih ((watching hashing config).step engine call).1
    rw [System.historyFrom, List.countP_cons, List.countP_cons]
    refine Nat.add_le_add further ?_
    split
    · rename_i counted
      rw [if_pos (only engine call counted)]
    · exact Nat.zero_le _

/-- A refused call is an event: a configuration that is out of bounds is not refused as invalid. -/
theorem isEvent_of_isRefusal (engine : Engine) (call : Call)
    (refused : (engine.turn hashing call).reply.isRefusal = true) : call.isEvent = true := by
  cases call with
  | ingest | revoke | respond => rfl
  | updateConfig config =>
    change (Reply.configured config (engine.updateConfig config).answer).isRefusal = true at refused
    unfold updateConfig at refused
    split at refused
    · rename_i error broken
      exact absurd ((Config.not_isRefusal_of_check broken).symm.trans refused) Bool.false_ne_true
    · cases refused

theorem countP_placements (turns : List Turn) :
    turns.countP (·.reply.isIngest) =
      turns.countP (·.reply.wentTo Placement.isInsert) +
      turns.countP (·.reply.wentTo Placement.isOverwrite) +
      turns.countP (·.reply.wentTo Placement.isEviction) +
      turns.countP (·.reply.wentTo Placement.isBypass) := by
  induction turns with
  | nil => rfl
  | cons turn rest ih =>
    simp only [List.countP_cons, ih]
    rcases turn with ⟨⟨event, _ | ⟨_, _, _, _, _, _, _, _ | _ | _ | _ | _, _⟩⟩ | _ | _ | _, _, _⟩
    all_goals simp [Reply.isIngest, Reply.wentTo, Placement.isInsert, Placement.isOverwrite,
      Placement.isEviction, Placement.isBypass] <;> omega

theorem countP_revokes (turns : List Turn) :
    turns.countP (·.reply.hasImpact) +
        turns.countP (fun turn => turn.reply.isRevoke && !turn.reply.hasImpact) =
      turns.countP (·.reply.isRevoke) := by
  induction turns with
  | nil => rfl
  | cons turn rest ih =>
    simp only [List.countP_cons, ← ih]
    rcases turn with ⟨_ | ⟨event, _ | ⟨_, _, _ | _, _, _, _, _⟩⟩ | _ | _, _, _⟩
    all_goals simp [Reply.isRevoke, Reply.hasImpact] <;> omega

/-- The replies that add a leaf to a chain. -/
def Reply.addsTo : ChainKind → Reply → Bool
  | .feedback => Reply.isIngest
  | .revocation => Reply.hasImpact
  | .response => Reply.isResponse

theorem isSome_leaf? (kind : ChainKind) (reply : Reply) :
    (reply.leaf? kind).isSome = reply.addsTo kind := by
  rcases reply with ⟨event, _ | result⟩ | ⟨event, _ | ⟨_, _, _ | _, _, _, _, _⟩⟩ |
    ⟨event, _ | result⟩ | _ <;> cases kind <;> rfl

/-! ### Runs -/

/-- Counters agree with the records and with the turns that led to them. -/
structure Agrees (metrics : Metrics) (records : List Record) (turns : List Turn) : Prop where
  ingests : metrics.ingests.toNat = turns.countP (·.reply.isIngest)
  placements : metrics.ingests.toNat = metrics.ringInserts.toNat + metrics.ringOverwrites.toNat +
    metrics.ringEvictions.toNat + metrics.bypassWrites.toNat
  feedbackCounts : metrics.ingests.toNat = (records.map (·.feedbackCount.toNat)).sum
  revokedCounts : metrics.revokesWithImpact.toNat = (records.map (·.revokedCount.toNat)).sum
  revokes : metrics.revokesWithImpact.toNat + metrics.revokesWithoutImpact.toNat =
    turns.countP (·.reply.isRevoke)
  responses : metrics.responses.toNat = turns.countP (·.reply.isResponse)
  responseCounts : metrics.responses.toNat = (records.map (·.responseCount.toNat)).sum
  rejected : metrics.rejected.toNat = turns.countP (·.reply.isRefusal)
  promotions : metrics.promotions.toNat = turns.countP Turn.rises
  demotions : metrics.demotions.toNat = turns.countP Turn.falls

/-- After every run of turns the registry is intact and the counters are those of the turns. -/
theorem tallied_of_run (hashing : Hashing) (config : Config) (calls : List Call) :
    ((watching hashing config).final calls).Intact ∧
      ((watching hashing config).final calls).metrics =
        tally ((watching hashing config).history calls) := by
  refine (watching hashing config).invariant
    (fun turns engine => engine.Intact ∧ engine.metrics = tally turns)
    ⟨intact_start config, rfl⟩ ?_ calls
  rintro turns engine call ⟨intact, counted⟩
  refine ⟨(call_slotStep intact hashing call).intact intact, ?_⟩
  show (engine.call hashing call).1.metrics = tally (turns ++ [engine.turn hashing call])
  rw [metrics_call intact, counted, tally_append]

/-- The counters of all records, by the turns. -/
theorem sum_count_of_run (hashing : Hashing) (config : Config) (calls : List Call)
    (kind : ChainKind) :
    (((watching hashing config).final calls).records.map
        fun record => (record.count kind).toNat).sum =
      ((watching hashing config).history calls).countP (·.reply.addsTo kind) := by
  have same : (watching hashing config).final calls = (system hashing config).final calls :=
    finalFrom_watching _ calls
  have counted (entity : EntityId) : Counted entity ((system hashing config).history calls)
      (((watching hashing config).final calls).record? entity) := by
    rw [same]
    exact record_invariant (fun _ => True) (Counted entity) trivial (fun _ _ => trivial)
      (fun _ => rfl) (fun _ _ _ _ _ counted _ effect => counted.step effect) calls
  have replies : ((watching hashing config).history calls).map (·.reply) =
      ((system hashing config).history calls).map (·.reply) := replies_watching _ calls
  have counts (reply : Reply) : (reply.leaf? kind).isSome = reply.addsTo kind :=
    isSome_leaf? kind reply
  calc _ = (allLeaves kind ((system hashing config).history calls)).length :=
        sum_count (tallied_of_run hashing config calls).1 counted kind
    _ = (((system hashing config).history calls).map (·.reply)).countP (Reply.addsTo kind) := by
        rw [allLeaves, List.length_filterMap_eq_countP, List.countP_map]
        simp only [counts, Function.comp_def]
    _ = _ := by rw [← replies, List.countP_map]; rfl

/-- **The counters agree after every run of turns with less than 2 ^ 64 events.** -/
theorem agrees_of_run (hashing : Hashing) (config : Config) (calls : List Call)
    (few : calls.countP Call.isEvent < 2 ^ 64) :
    Agrees ((watching hashing config).final calls).metrics
      ((watching hashing config).final calls).records
      ((watching hashing config).history calls) := by
  obtain ⟨-, counted⟩ := tallied_of_run hashing config calls
  have sums := sum_count_of_run hashing config calls
  generalize made : (watching hashing config).history calls = turns at counted sums ⊢
  have fits (counts : Turn → Bool)
      (only : ∀ engine call, counts (turn engine hashing call) = true → call.isEvent = true) :
      (UInt64.ofNat (turns.countP counts)).toNat = turns.countP counts :=
    UInt64.toNat_ofNat_of_lt' (Nat.lt_of_le_of_lt (made ▸ countP_turns_le only _ calls) few)
  have fitsEvents (counts : Turn → Bool) (quiet : ∀ config answer before after,
      counts ⟨.configured config answer, before, after⟩ = false) :
      (UInt64.ofNat (turns.countP counts)).toNat = turns.countP counts :=
    fits counts fun engine call happened => by
      cases call with
      | ingest | revoke | respond => rfl
      | updateConfig config => exact absurd ((quiet _ _ _ _).symm.trans happened) Bool.false_ne_true
  rw [counted]
  have ingests := fitsEvents (·.reply.isIngest) fun _ _ _ _ => rfl
  have struck := fitsEvents (·.reply.hasImpact) fun _ _ _ _ => rfl
  have missed := fitsEvents (fun turn => turn.reply.isRevoke && !turn.reply.hasImpact)
    fun _ _ _ _ => rfl
  have responses := fitsEvents (·.reply.isResponse) fun _ _ _ _ => rfl
  have placed (kind : Placement → Bool) := fitsEvents (·.reply.wentTo kind) fun _ _ _ _ => rfl
  exact
    { ingests
      placements := by
        simp only [tally, ingests, placed]
        exact countP_placements turns
      feedbackCounts := ingests.trans (sums .feedback).symm
      revokedCounts := struck.trans (sums .revocation).symm
      revokes := by
        simp only [tally, struck, missed]
        exact countP_revokes turns
      responses
      responseCounts := responses.trans (sums .response).symm
      rejected := fits (·.reply.isRefusal) isEvent_of_isRefusal
      promotions := fitsEvents Turn.rises fun _ _ _ _ => rfl
      demotions := fitsEvents Turn.falls fun _ _ _ _ => rfl }

/-- **The counters agree with the records.** Take any run of feedbacks, batches, revocations,
responses and new configurations, under any hash function, with less than 2 ^ 64 events and without
records put in. Unrolled, a batch being one call for each of its feedbacks, it gets the same replies
and leaves the same engine. The counters of this engine then say how many feedbacks were accepted,
wherever they were written, how many revocations were answered with and without impact, how many
responses were accepted, how many calls were refused as invalid or because a counter was full, and
how many feedbacks and revocations left the tier of their entity higher or lower than before. What
was accepted is also what the counters of all records sum up to. -/
theorem metrics_agree (hashing : Hashing) (config : Config) (requests : List Request)
    (own : ∀ request ∈ requests, request.isImport = false)
    (few : (requests.flatMap Request.calls).countP Call.isEvent < 2 ^ 64) :
    let engine := (service hashing config).final requests
    let turns := (watching hashing config).history (requests.flatMap Request.calls)
    engine = (watching hashing config).final (requests.flatMap Request.calls) ∧
      ((service hashing config).history requests).flatMap Answered.replies =
        turns.map (·.reply) ∧
      Agrees engine.metrics engine.records turns := by
  intro engine turns
  obtain ⟨same, replies⟩ := service_unrolled hashing config own
  refine ⟨same, replies, ?_⟩
  rw [show engine = _ from same]
  exact agrees_of_run hashing config _ few

/-- A feedback, a batch of which one feedback is accepted, a revocation, a response that finds no
record and one that does, a new configuration, and a feedback under it. -/
def busy : List Request :=
  [.call (rating 1 80 0), .batch [opinion 1 2 90 20, opinion 2 6 101 20, opinion 1 3 70 15],
    .call (.revoke ⟨⟨1⟩, ⟨.ofSeed 2⟩, 1, 30, ⟨.fill 0⟩⟩),
    .call (.respond ⟨⟨2⟩, ⟨.ofSeed 6⟩, 1, 40, ⟨.fill 0⟩⟩),
    .call (.respond ⟨⟨1⟩, ⟨.ofSeed 6⟩, 1, 40, ⟨.fill 0⟩⟩), .call (.updateConfig {}),
    .call (rating 4 80 50)]

/-- The entity rises by the batch and falls by the feedback under the new configuration. -/
theorem metrics_agree_busy :
    (∀ request ∈ busy, request.isImport = false) ∧
    (busy.flatMap Request.calls).countP Call.isEvent < 2 ^ 64 ∧
    let engine := (service summing lenient).final busy
    engine.metrics.ingests.toNat = 3 ∧ engine.metrics.rejected.toNat = 2 ∧
      engine.metrics.promotions.toNat = 1 ∧ engine.metrics.demotions.toNat = 1 ∧
      (engine.records.map (·.feedbackCount.toNat)).sum = 3 := by
  have own : ∀ request ∈ busy, request.isImport = false := by simp [busy, Request.isImport]
  have few : (busy.flatMap Request.calls).countP Call.isEvent < 2 ^ 64 := by decide
  obtain ⟨-, -, agrees⟩ := metrics_agree summing lenient busy own few
  have accepted := agrees.ingests.trans (show _ = 3 by decide +kernel)
  refine ⟨own, few, accepted, ?_, ?_, ?_, agrees.feedbackCounts.symm.trans accepted⟩
  · exact agrees.rejected.trans (by decide +kernel)
  · exact agrees.promotions.trans (by decide +kernel)
  · exact agrees.demotions.trans (by decide +kernel)

end Engine

end Reputation
