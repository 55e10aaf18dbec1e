/-
**Persisting and restoring.**

An engine is put into the archive over whatever rows are there, and the archive is put into another
engine over whatever records are there. What an engine persists comes back as it was; what else the
archive holds comes back too, if all of it can be read. If some row of another entity cannot be
read, nothing comes back at all.

* `Storing`: every record of an engine is in the slot of its own entity and fit for its frame, which
  every request keeps if what is put in was read from bytes.
* `rowsWith_of_some`, `rowsWith_of_none`: what is in the rows after an engine was persisted.
* `record?_importAll`: what is in an engine after some records were put in.
* **`persist_restore`**: what comes of persisting one engine and restoring another.
-/

import Reputation.Archive.Exchange
import Reputation.Proofs.Archive.Database
import Reputation.Proofs.Engine.Registry
import Reputation.Proofs.Record.Reach

namespace Reputation

namespace Engine

variable {engine other : Engine} {hashing : Hashing} {config : Config} {entity : EntityId}
  {record : Record} {records : List Record} {requests : List Request}

/-! ### Engines that can be stored -/

/-- Every slot holds a record of its own entity that is fit for its frame, and the configuration in
force is within bounds. -/
structure Storing (engine : Engine) : Prop where
  intact : engine.Intact
  within : engine.config.check = .ok ()
  storable : ∀ (entity : EntityId) record, engine.record? entity = some record → record.Storable

/-- Whether a request puts in nothing but a record that was read from bytes. -/
def Request.PutsReadable (request : Request) : Prop :=
  ∀ record, request = .importRecord record → ∃ bytes, Record.decode bytes = .ok record

theorem Storing.call (storing : engine.Storing) (hashing : Hashing) (call : Call) :
    (engine.call hashing call).1.Storing where
  intact := (call_slotStep storing.intact hashing call).intact storing.intact
  within := by
    rcases config_call call with same | within
    · rw [same]
      exact storing.within
    · exact within
  storable entity := (Record.storable_keptByEvents hashing storing.within).step
    (storing.storable entity) (call_effect call)

theorem Storing.intake (storing : engine.Storing) (hashing : Hashing) (events : List Feedback) :
    ((intake hashing).finalFrom engine events).Storing := by
  induction events generalizing engine with
  | nil => exact storing
  | cons event rest ih => exact ih (storing.call hashing (.ingest event))

theorem Storing.importRecord (storing : engine.Storing) {bytes : List UInt8}
    (read : Record.decode bytes = .ok record) : (engine.importRecord record).Storing where
  intact := storing.intact.put rfl
  within := storing.within
  storable entity held known := by
    rw [Engine.importRecord, record?_setRecord] at known
    split at known
    · cases known
      exact Record.storable_of_decode read
    · exact storing.storable entity held known

/-- **Every request leaves records that can be stored.** -/
theorem Storing.serve (storing : engine.Storing) (hashing : Hashing) {request : Request}
    (readable : request.PutsReadable) : (engine.serve hashing request).1.Storing := by
  cases request with
  | call call => exact storing.call hashing call
  | batch events =>
    show (engine.ingestBatch hashing events).engine.Storing
    rw [(ingestBatch_inTurn engine hashing events).engine]
    exact storing.intake hashing events
  | importRecord record =>
    obtain ⟨bytes, read⟩ := readable record rfl
    exact storing.importRecord read

theorem storing_of_run (hashing : Hashing) (within : config.check = .ok ())
    (readable : ∀ request ∈ requests, request.PutsReadable) :
    ((service hashing config).final requests).Storing := by
  have opening : ({ config } : Engine).Storing :=
    ⟨intact_start config, within, fun entity record known => by cases known⟩
  exact (service hashing config).invariant_of_allowed Request.PutsReadable
    (fun _ engine => engine.Storing) opening
    (fun _ _ _ readable storing => storing.serve hashing readable) requests readable

/-! ### What is persisted -/

/-- The rows after an engine was persisted over some rows. -/
def rowsWith (engine : Engine) (rows : RowTable) (stamp : String) : RowTable :=
  engine.records.foldl (Database.withRecord stamp) rows

theorem persist_eq (versions : Option (List UInt32)) (rows : RowTable) (engine : Engine)
    (stamp : String) : Database.persist ⟨versions, some rows⟩ engine stamp =
      ⟨⟨versions, some (engine.rowsWith rows stamp)⟩, .ok engine.entityCount,
        [.persisted engine.entityCount]⟩ := by
  rw [Database.persist, Database.saveAll_eq]
  rfl

/-- **A record is persisted in the row of its entity.** -/
theorem rowsWith_of_some (intact : engine.Intact) (rows : RowTable) (stamp : String)
    (known : engine.record? entity = some record) :
    (engine.rowsWith rows stamp)[entity.key]? = some (record.row stamp) := by
  obtain rfl := intact.own known
  refine Database.saved_of_mem stamp rows ((mem_records intact).mpr known) fun other among here => ?_
  rw [mem_records intact, here, known] at among
  exact (Option.some.inj among).symm

/-- The row of an entity without a record stays as it is. -/
theorem rowsWith_of_none (intact : engine.Intact) (rows : RowTable) (stamp : String)
    (unknown : engine.record? entity = none) :
    (engine.rowsWith rows stamp)[entity.key]? = rows[entity.key]? := by
  refine Database.saved_of_forall stamp rows fun record member here => ?_
  rw [mem_records intact, here, unknown] at member
  cases member

/-! ### What is restored -/

/-- **Records are put in over the records that are there.** -/
theorem record?_importAll (engine : Engine)
    (same : ∀ first ∈ records, ∀ second ∈ records, first.entity = second.entity → first = second) :
    (∀ record ∈ records, (engine.importAll records).record? record.entity = some record) ∧
      ∀ entity, (∀ record ∈ records, record.entity ≠ entity) →
        (engine.importAll records).record? entity = engine.record? entity := by
  have look (entity : EntityId) (engine : Engine) (record : Record) :
      (engine.importRecord record).record? entity =
        (if record.entity = entity then some (some record) else none).getD
          (engine.record? entity) := by
    rw [importRecord, record?_setRecord]
    split <;> rfl
  refine ⟨fun record member => ?_, fun entity apart => ?_⟩
  · refine look_foldl_of_mem (·.record? record.entity) (look record.entity) engine member
      (if_pos rfl) fun other among shown shows => ?_
    obtain ⟨here, found⟩ := Option.ite_none_right_eq_some.mp shows
    rw [same other among record member here] at found
    exact (Option.some.inj found).symm
  · refine look_foldl_of_found (·.record? entity) (look entity) engine rfl
      fun record member shown shows => ?_
    rw [if_neg (apart record member)] at shows
    cases shows

variable {versions : Option (List UInt32)} {rows : RowTable} {row : Row}

/-- **If every row is sound, all records come back, and no others are touched.** -/
theorem restore_of_sound (engine : Engine) (versions : Option (List UInt32))
    (sound : ∀ (entity : EntityId) row, rows[entity.key]? = some row → row.Sound entity) :
    let restored := engine.restore ⟨versions, some rows⟩
    restored.answer = .ok rows.size ∧
      (∀ (entity : EntityId) row, rows[entity.key]? = some row →
        ∃ record, Record.decode row.bytes = .ok record ∧
          restored.engine.record? entity = some record) ∧
      ∀ entity : EntityId, rows[entity.key]? = none →
        restored.engine.record? entity = engine.record? entity := by
  obtain ⟨records, loaded⟩ := Database.loadAll_of_sound versions sound
  have restores : engine.restore ⟨versions, some rows⟩ =
      ⟨engine.importAll records, .ok records.length, [.restored records.length]⟩ := by
    rw [restore, loaded]
  -- Two records of one entity come from one row, so that none is put in over another one.
  have same : ∀ first ∈ records, ∀ second ∈ records, first.entity = second.entity →
      first = second := by
    intro first member second memberToo here
    obtain ⟨row, stored, read⟩ := (Database.mem_of_loadAll loaded).mp member
    obtain ⟨rowToo, storedToo, readToo⟩ := (Database.mem_of_loadAll loaded).mp memberToo
    rw [here] at stored
    cases stored.symm.trans storedToo
    exact Except.ok.inj (read.symm.trans readToo)
  obtain ⟨put, kept⟩ := record?_importAll engine same
  rw [restores]
  refine ⟨congrArg _ (Database.length_of_loadAll loaded), fun entity row stored => ?_,
    fun entity absent => kept entity fun record member here => ?_⟩
  · obtain ⟨record, read, rfl⟩ := sound entity row stored
    exact ⟨record, read, put record ((Database.mem_of_loadAll loaded).mpr ⟨row, stored, read⟩)⟩
  · obtain ⟨row, stored, -⟩ := (Database.mem_of_loadAll loaded).mp member
    rw [here, absent] at stored
    cases stored

/-- **If some row is not sound, such a row is reported, and nothing comes back.** -/
theorem restore_of_unsound (engine : Engine) (versions : Option (List UInt32))
    (stored : rows[entity.key]? = some row) (unsound : ¬ row.Sound entity) :
    ∃ (offender : EntityId) (culprit : Row) (fault : RowFault),
      rows[offender.key]? = some culprit ∧ ¬ culprit.Sound offender ∧
        engine.restore ⟨versions, some rows⟩ =
          ⟨engine, .error (.archive (.corrupt offender fault)), []⟩ := by
  obtain ⟨offender, culprit, fault, held, corrupt, loaded⟩ :=
    Database.loadAll_of_unsound versions stored unsound
  refine ⟨offender, culprit, fault, held, corrupt, ?_⟩
  rw [restore, loaded]
  rfl

/-- Whether a row is of an entity of which an engine has no record. -/
def Remains (engine : Engine) (rows : RowTable) (entity : EntityId) (row : Row) : Prop :=
  engine.record? entity = none ∧ rows[entity.key]? = some row

/-- The rows of an engine that was persisted are sound, and the others remain. -/
theorem sound_or_remains (storing : engine.Storing) {stamp : String}
    (stored : (engine.rowsWith rows stamp)[entity.key]? = some row) :
    row.Sound entity ∨ engine.Remains rows entity row := by
  cases known : engine.record? entity with
  | none =>
    rw [rowsWith_of_none storing.intact rows stamp known] at stored
    exact .inr ⟨known, stored⟩
  | some record =>
    rw [rowsWith_of_some storing.intact rows stamp known] at stored
    cases stored
    exact .inl ⟨record, Row.decode_row (storing.storable entity record known) stamp,
      storing.intact.own known⟩

/-- **What is persisted comes back.** Take any run of requests to an engine whose first
configuration is within bounds, where every record that is put in was read from bytes. Take any
archive with its table of rows, and any other engine. Persisting the first engine succeeds. If every
remaining row, that of an entity of which the engine has no record, holds a record of its entity,
then restoring the other engine succeeds, and it holds the record of the first engine for every
entity that has one, the archived record for every other entity with a row, and its own for the
rest. If a remaining row holds none, it is reported as corrupt when it is loaded, a row of this kind
is reported when the other engine is restored, and that engine is left as it is. All records of any
archive are read in the order of the numbers of their entities without sign. -/
theorem persist_restore (hashing : Hashing) {config : Config} (within : config.check = .ok ())
    {requests : List Request}
    (readable : ∀ record, .importRecord record ∈ requests →
      ∃ bytes, Record.decode bytes = .ok record)
    (versions : Option (List UInt32)) (rows : RowTable) (other : Engine) (stamp : String) :
    let engine := (service hashing config).final requests
    let persisted := Database.persist ⟨versions, some rows⟩ engine stamp
    let restored := other.restore persisted.database
    persisted.answer = .ok engine.entityCount ∧
      ((∀ entity row, engine.Remains rows entity row → row.Sound entity) →
        (∃ count, persisted.database.count = .ok count ∧ restored.answer = .ok count) ∧
          (∀ entity record, engine.record? entity = some record →
            restored.engine.record? entity = some record) ∧
          (∀ entity row, engine.Remains rows entity row →
            ∃ record, Record.decode row.bytes = .ok record ∧
              restored.engine.record? entity = some record) ∧
          ∀ entity, engine.record? entity = none → rows[entity.key]? = none →
            restored.engine.record? entity = other.record? entity) ∧
      (∀ entity row, engine.Remains rows entity row → ¬ row.Sound entity →
        (∃ fault, persisted.database.load entity = .error (.archive (.corrupt entity fault))) ∧
          (∃ offender culprit fault, engine.Remains rows offender culprit ∧
            ¬ culprit.Sound offender ∧
            restored.answer = .error (.archive (.corrupt offender fault))) ∧
          restored.engine = other) ∧
      ∀ (database : Database) records, database.loadAll = .ok records →
        records.Pairwise fun first second => first.entity.value < second.entity.value := by
  intro engine persisted restored
  have storing : engine.Storing := storing_of_run hashing within fun request member record put =>
    readable record (put ▸ member)
  have writes : persisted = ⟨⟨versions, some (engine.rowsWith rows stamp)⟩,
      .ok engine.entityCount, [.persisted engine.entityCount]⟩ :=
    persist_eq versions rows engine stamp
  have reads : restored = other.restore ⟨versions, some (engine.rowsWith rows stamp)⟩ :=
    congrArg (fun outcome => other.restore outcome.database) writes
  refine ⟨by rw [writes], fun sound => ?_, fun entity row remains unsound => ?_,
    fun _ _ => Database.loadAll_ordered⟩
  · obtain ⟨answer, brought, left⟩ := other.restore_of_sound versions fun entity row stored =>
      (sound_or_remains storing stored).elim id (sound entity row)
    rw [← reads] at answer brought left
    refine ⟨⟨_, by rw [writes]; rfl, answer⟩, fun entity record known => ?_,
      fun entity row remains => ?_, fun entity unknown absent => left entity ?_⟩
    · obtain ⟨found, read, back⟩ := brought entity _
        (rowsWith_of_some storing.intact rows stamp known)
      have own := Row.decode_row (storing.storable entity record known) stamp
      rw [back, Except.ok.inj (read.symm.trans own)]
    · refine brought entity row ?_
      rw [rowsWith_of_none storing.intact rows stamp remains.1, remains.2]
    · rw [rowsWith_of_none storing.intact rows stamp unknown, absent]
  · have stored : (engine.rowsWith rows stamp)[entity.key]? = some row := by
      rw [rowsWith_of_none storing.intact rows stamp remains.1, remains.2]
    obtain ⟨fault, corrupt⟩ := Row.record_of_unsound unsound
    obtain ⟨offender, culprit, reported, held, offends, refused⟩ :=
      other.restore_of_unsound versions stored unsound
    rw [← reads] at refused
    refine ⟨⟨fault, ?_⟩, ⟨offender, culprit, reported, ?_, offends, by rw [refused]⟩,
      by rw [refused]⟩
    · rw [writes, Database.load_of_row stored, corrupt]
      rfl
    · exact (sound_or_remains storing held).resolve_left offends

/-- A feedback on the first entity, and a record of the third that is put in. -/
def lodged : List Request :=
  [.call (.ingest (opinion 1 5 80 10)), .importRecord (.empty ⟨3⟩ 0 0)]

/-- An entity whose number has the sign bit set. -/
def remote : EntityId := ⟨0x8000000000000000⟩

/-- A row of the third entity that cannot be read, and a sound one of the remote entity. -/
def attic : RowTable :=
  ((∅ : RowTable).insert (EntityId.key ⟨3⟩) ⟨1, [], "then"⟩).insert remote.key
    ((Record.empty remote 0 0).row "then")

/-- The same with another row that cannot be read. -/
def dampAttic : RowTable := attic.insert (EntityId.key ⟨4⟩) ⟨1, [], "then"⟩

/-- An engine with a record of the ninth entity. -/
def guest : Engine := ({} : Engine).importRecord (.empty ⟨9⟩ 0 0)

theorem readable_lodged (record : Record) (put : .importRecord record ∈ lodged) :
    ∃ bytes, Record.decode bytes = .ok record := by
  have third : record = .empty ⟨3⟩ 0 0 := by simpa [lodged] using put
  exact ⟨_, third ▸ Record.decode_encode (Record.storable_empty _ _ _)⟩

theorem record?_lodged :
    ((service summing {}).final lodged).record? ⟨3⟩ = some (.empty ⟨3⟩ 0 0) := by
  rw [lodged, ← List.singleton_append, System.final_concat]
  exact (record?_setRecord _).trans (if_pos rfl)

/-- Every row of the attic but that of the third entity is sound. -/
theorem sound_attic {entity : EntityId} {row : Row}
    (remains : ((service summing {}).final lodged).Remains attic entity row) :
    row.Sound entity := by
  obtain ⟨unknown, stored⟩ := remains
  simp only [attic, Std.ExtTreeMap.getElem?_insert, Std.LawfulEqCmp.compare_eq_iff_eq,
    EntityId.key_inj] at stored
  split at stored
  · rename_i here
    cases stored
    exact ⟨_, Row.decode_row (Record.storable_empty remote 0 0) "then", here⟩
  · split at stored
    · rename_i here
      subst here
      cases record?_lodged.symm.trans unknown
    · simp at stored

/-- The third entity comes back as it was persisted, the remote one as it was archived, and the
ninth stays as it was. With the row of the fourth entity in the archive nothing comes back. -/
theorem persist_restore_attic :
    let engine := (service summing {}).final lodged
    let persisted := Database.persist ⟨none, some attic⟩ engine "now"
    let restored := guest.restore persisted.database
    let damp := Database.persist ⟨none, some dampAttic⟩ engine "now"
    ({} : Config).check = .ok () ∧
      restored.engine.record? ⟨3⟩ = some (.empty ⟨3⟩ 0 0) ∧
      restored.engine.record? remote = some (.empty remote 0 0) ∧
      restored.engine.record? ⟨9⟩ = some (.empty ⟨9⟩ 0 0) ∧
      (∃ fault, damp.database.load ⟨4⟩ = .error (.archive (.corrupt ⟨4⟩ fault))) ∧
      (guest.restore damp.database).engine = guest := by
  have within : ({} : Config).check = .ok () := rfl
  have unknown (entity : EntityId) (apart : entity = remote ∨ entity = ⟨4⟩ ∨ entity = ⟨9⟩) :
      ((service summing {}).final lodged).record? entity = none := by
    rcases apart with rfl | rfl | rfl
    all_goals decide +kernel
  obtain ⟨-, brings, -, -⟩ := persist_restore summing within readable_lodged none attic guest "now"
  obtain ⟨-, own, archived, kept⟩ := brings fun _ _ => sound_attic
  obtain ⟨-, -, spoils, -⟩ :=
    persist_restore summing within readable_lodged none dampAttic guest "now"
  have remoteRow : attic[remote.key]? = some ((Record.empty remote 0 0).row "then") :=
    Std.ExtTreeMap.getElem?_insert_self
  have dampRow : dampAttic[EntityId.key ⟨4⟩]? = some ⟨1, [], "then"⟩ :=
    Std.ExtTreeMap.getElem?_insert_self
  have unsound : ¬ (⟨1, [], "then"⟩ : Row).Sound ⟨4⟩ := by
    rintro ⟨record, read, -⟩
    cases read
  obtain ⟨corrupt, -, still⟩ := spoils ⟨4⟩ _ ⟨unknown _ (.inr (.inl rfl)), dampRow⟩ unsound
  obtain ⟨found, read, back⟩ := archived remote _ ⟨unknown _ (.inl rfl), remoteRow⟩
  have whole := Row.decode_row (Record.storable_empty remote 0 0) "then"
  refine ⟨within, own _ _ record?_lodged, ?_, ?_, corrupt, still⟩
  · rw [back, Except.ok.inj (read.symm.trans whole)]
  · have absent : attic[EntityId.key ⟨9⟩]? = none := by decide +kernel
    exact (kept ⟨9⟩ (unknown _ (.inr (.inr rfl))) absent).trans
      ((record?_setRecord _).trans (if_pos rfl))

end Engine

end Reputation
