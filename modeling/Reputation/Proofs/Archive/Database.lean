/-
**Reading the archive.**

A row is read as the record of its entity or reported as corrupt under the entity's number, and
nothing else can come of it. All rows are read by the number of their entity without sign, and the
first that is corrupt is reported in place of all records.

* `Row.Sound`: the bytes of a row make up a record of its entity.
* `EntityId.key_inj`: the number with sign tells entities apart.
* `look_foldl_of_mem`, `look_foldl_of_forall`: what is found after some puts, one after the other.
* `mem_listed`, `listed_ordered`: the list of rows has each row once, in order.
* `loadAll_of_sound`, `loadAll_of_unsound`: all records are read exactly if every row is sound.
* `mem_of_loadAll`, `loadAll_ordered`: what is read is what the rows hold, in order.
-/

import Reputation.Archive.Database
import Reputation.Proofs.Record.Reading

namespace Reputation

/-! ### Puts in turn -/

section Puts

variable {State Item Value : Type} {put : State → Item → State} {shown? : Item → Option Value}
  {items : List Item}

/-- What is found stays if no item shows anything else. -/
theorem look_foldl_of_found (look : State → Value)
    (look_put : ∀ state item, look (put state item) = (shown? item).getD (look state))
    (state : State) {value : Value} (found : look state = value)
    (same : ∀ item ∈ items, ∀ shown ∈ shown? item, shown = value) :
    look (items.foldl put state) = value := by
  induction items generalizing state with
  | nil => exact found
  | cons first rest ih =>
    refine ih _ ?_ fun item member => same item (List.mem_cons_of_mem _ member)
    rw [look_put]
    cases shows : shown? first with
    | none => exact found
    | some shown => exact same first List.mem_cons_self shown shows

/-- What some item shows is found if no item shows anything else. -/
theorem look_foldl_of_mem (look : State → Value)
    (look_put : ∀ state item, look (put state item) = (shown? item).getD (look state))
    (state : State) {item : Item} {value : Value} (member : item ∈ items)
    (shows : shown? item = some value)
    (same : ∀ other ∈ items, ∀ shown ∈ shown? other, shown = value) :
    look (items.foldl put state) = value := by
  induction items generalizing state with
  | nil => cases member
  | cons first rest ih =>
    have sameRest : ∀ other ∈ rest, ∀ shown ∈ shown? other, shown = value :=
      fun other among => same other (List.mem_cons_of_mem _ among)
    rcases List.mem_cons.mp member with rfl | further
    · refine look_foldl_of_found look look_put (put state item) ?_ sameRest
      rw [look_put, shows]
      rfl
    · exact ih _ further sameRest

end Puts

/-! ### Numbers of entities -/

@[simp] theorem EntityId.ofKey_key (entity : EntityId) : ofKey entity.key = entity :=
  congrArg EntityId.mk (UInt64.toUInt64_toInt64 entity.value)

@[simp] theorem EntityId.key_ofKey (key : Int64) : (ofKey key).key = key :=
  Int64.toInt64_toUInt64 key

/-- The number with sign tells entities apart. -/
theorem EntityId.key_inj {first second : EntityId} : first.key = second.key ↔ first = second :=
  ⟨fun same => by rw [← ofKey_key first, same, ofKey_key], congrArg key⟩

/-! ### Rows -/

namespace Row

variable {row : Row} {owner : EntityId} {record : Record}

/-- Whether the bytes of a row make up a record of its entity. -/
def Sound (row : Row) (owner : EntityId) : Prop :=
  ∃ record, Record.decode row.bytes = .ok record ∧ record.entity = owner

theorem record_eq_ok : row.record owner = .ok record ↔
    Record.decode row.bytes = .ok record ∧ record.entity = owner := by
  unfold Row.record
  split
  · rename_i fault unreadable
    simp [unreadable]
  · rename_i error other unreadable
    simp [unreadable]
  · rename_i found read
    split
    · rename_i own
      simp only [read, Except.ok.injEq]
      exact ⟨fun same => ⟨same, same ▸ own⟩, And.left⟩
    · rename_i foreign
      simp only [read, Except.ok.injEq, reduceCtorEq, false_iff, not_and]
      exact fun same own => foreign (same ▸ own)

/-- **A row that is not sound is corrupt, and nothing else.** -/
theorem record_of_unsound (unsound : ¬ row.Sound owner) :
    ∃ fault, row.record owner = .error (corrupt owner fault) := by
  unfold Row.record
  split
  · rename_i fault unreadable
    exact ⟨.unreadable fault, rfl⟩
  · rename_i error other unreadable
    obtain ⟨fault, rfl⟩ := Record.decode_failsAsRecord row.bytes error unreadable
    exact absurd rfl (other fault)
  · rename_i found read
    split
    · rename_i own
      exact absurd ⟨found, read, own⟩ unsound
    · exact ⟨.foreign found.entity, rfl⟩

theorem exists_record_iff : (∃ record, row.record owner = .ok record) ↔ row.Sound owner :=
  exists_congr fun _ => record_eq_ok

/-- A row that cannot be read is corrupt. -/
theorem record_of_error {error : Error} (failed : row.record owner = .error error) :
    ¬ row.Sound owner ∧ ∃ fault, error = corrupt owner fault := by
  have unsound : ¬ row.Sound owner := by
    intro sound
    obtain ⟨record, read⟩ := exists_record_iff.mpr sound
    cases failed.symm.trans read
  obtain ⟨fault, corrupted⟩ := record_of_unsound unsound
  exact ⟨unsound, fault, Except.error.inj (failed.symm.trans corrupted)⟩

/-- The row of a record that can be stored is sound. -/
theorem decode_row (storable : record.Storable) (stamp : String) :
    Record.decode (record.row stamp).bytes = .ok record :=
  Record.decode_encode storable

end Row

namespace Database

variable {versions : Option (List UInt32)} {rows : RowTable} {entity : EntityId} {row : Row}
  {records : List Record} {record : Record}

/-! ### The list of rows -/

/-- The rows by the number of their entity. -/
def listed (rows : RowTable) : List (EntityId × Row) :=
  (rows.toList.map fun item => (EntityId.ofKey item.1, item.2)).mergeSort
    fun first second => first.1.value ≤ second.1.value

theorem allRows_eq (versions : Option (List UInt32)) (rows : RowTable) :
    allRows ⟨versions, some rows⟩ = .ok (listed rows) := rfl

theorem length_listed (rows : RowTable) : (listed rows).length = rows.size := by
  rw [listed, List.length_mergeSort, List.length_map, Std.ExtTreeMap.length_toList]

theorem mem_listed : (entity, row) ∈ listed rows ↔ rows[entity.key]? = some row := by
  rw [listed, List.mem_mergeSort, List.mem_map]
  constructor
  · rintro ⟨⟨key, held⟩, member, same⟩
    cases same
    rw [EntityId.key_ofKey]
    exact Std.ExtTreeMap.mem_toList_iff_getElem?_eq_some.mp member
  · intro stored
    exact ⟨(entity.key, row), Std.ExtTreeMap.mem_toList_iff_getElem?_eq_some.mpr stored,
      by rw [EntityId.ofKey_key]⟩

/-- **Rows are listed by the number of their entity without sign.** -/
theorem listed_ordered (rows : RowTable) :
    (listed rows).Pairwise fun first second => first.1.value < second.1.value := by
  have sorted : (listed rows).Pairwise fun first second => first.1.value ≤ second.1.value := by
    refine (List.pairwise_mergeSort ?_ ?_ _).imp of_decide_eq_true
    · intro one two three
      simpa using UInt64.le_trans
    · intro one two
      simpa using UInt64.le_total one.1.value two.1.value
  -- The table is in the order of the numbers with sign, of which only the distinctness is left.
  have distinct : (listed rows).Pairwise fun first second => first.1 ≠ second.1 := by
    refine (List.mergeSort_perm _ _).symm.pairwise ?_ fun different => different.symm
    rw [List.pairwise_map]
    refine rows.distinct_keys_toList.imp fun {one two} apart same => apart ?_
    have keys : one.1 = two.1 := by
      have same : EntityId.ofKey one.1 = EntityId.ofKey two.1 := same
      rw [← EntityId.key_ofKey one.1, same, EntityId.key_ofKey]
    exact Std.LawfulEqCmp.compare_eq_iff_eq.mpr keys
  refine sorted.imp₂ (fun first second below apart => ?_) distinct
  exact UInt64.lt_of_le_of_ne below fun same => apart (congrArg EntityId.mk same)

/-! ### Writing -/

/-- The rows after a record was stored. -/
def withRecord (stamp : String) (rows : RowTable) (record : Record) : RowTable :=
  rows.insert record.entity.key (record.row stamp)

theorem saveAll_eq (versions : Option (List UInt32)) (rows : RowTable) (records : List Record)
    (stamp : String) : saveAll ⟨versions, some rows⟩ records stamp =
      .ok ⟨versions, some (records.foldl (withRecord stamp) rows)⟩ := by
  induction records generalizing rows with
  | nil => rfl
  | cons record rest ih => exact ih _

theorem getElem?_withRecord (stamp : String) (entity : EntityId) (rows : RowTable)
    (record : Record) : (withRecord stamp rows record)[entity.key]? =
      (if record.entity = entity then some (some (record.row stamp)) else none).getD
        rows[entity.key]? := by
  simp only [withRecord, Std.ExtTreeMap.getElem?_insert, Std.LawfulEqCmp.compare_eq_iff_eq,
    EntityId.key_inj]
  split <;> rfl

/-- A row stays if no record of its entity is stored. -/
theorem saved_of_forall (stamp : String) (rows : RowTable)
    (apart : ∀ record ∈ records, record.entity ≠ entity) :
    (records.foldl (withRecord stamp) rows)[entity.key]? = rows[entity.key]? := by
  refine look_foldl_of_found (fun rows : RowTable => rows[entity.key]?)
    (getElem?_withRecord stamp entity) rows rfl fun record member shown shows => ?_
  rw [if_neg (apart record member)] at shows
  cases shows

/-- A stored record is in the row of its entity if no other one of the entity is stored. -/
theorem saved_of_mem (stamp : String) (rows : RowTable) (member : record ∈ records)
    (same : ∀ other ∈ records, other.entity = record.entity → other = record) :
    (records.foldl (withRecord stamp) rows)[record.entity.key]? = some (record.row stamp) := by
  refine look_foldl_of_mem (fun rows : RowTable => rows[record.entity.key]?)
    (getElem?_withRecord stamp record.entity) rows member (if_pos rfl)
    fun other among shown shows => ?_
  obtain ⟨here, found⟩ := Option.ite_none_right_eq_some.mp shows
  rw [same other among here] at found
  exact (Option.some.inj found).symm

/-! ### Reading -/

theorem load_of_row (stored : rows[entity.key]? = some row) :
    load ⟨versions, some rows⟩ entity = (row.record entity).map some := by
  have found : row? ⟨versions, some rows⟩ entity = .ok (some row) := congrArg Except.ok stored
  unfold load
  rw [found]
  show (row.record entity >>= fun record => pure (some record)) = _
  cases row.record entity <;> rfl

theorem loadAll_eq (versions : Option (List UInt32)) (rows : RowTable) :
    loadAll ⟨versions, some rows⟩ = (listed rows).mapM fun item => item.2.record item.1 := by
  rw [loadAll, allRows_eq]
  rfl

theorem loadAll_eq_ok : loadAll ⟨versions, some rows⟩ = .ok records ↔
    ((listed rows).map fun item => item.2.record item.1) = records.map .ok := by
  rw [loadAll_eq, mapM_eq_ok]

/-- **All records are read if every row is sound.** -/
theorem loadAll_of_sound (versions : Option (List UInt32))
    (sound : ∀ (entity : EntityId) row, rows[entity.key]? = some row → row.Sound entity) :
    ∃ records, loadAll ⟨versions, some rows⟩ = .ok records := by
  rw [loadAll_eq]
  cases read : (listed rows).mapM fun item => item.2.record item.1 with
  | ok records => exact ⟨records, rfl⟩
  | error error =>
    obtain ⟨⟨entity, row⟩, member, failed⟩ := mapM_eq_error read
    exact absurd (sound entity row (mem_listed.mp member)) (Row.record_of_error failed).1

/-- **If some row is not sound, such a row is reported as corrupt.** -/
theorem loadAll_of_unsound (versions : Option (List UInt32))
    (stored : rows[entity.key]? = some row) (unsound : ¬ row.Sound entity) :
    ∃ (offender : EntityId) (culprit : Row) (fault : RowFault),
      rows[offender.key]? = some culprit ∧ ¬ culprit.Sound offender ∧
        loadAll ⟨versions, some rows⟩ = .error (Row.corrupt offender fault) := by
  rw [loadAll_eq]
  cases read : (listed rows).mapM fun item => item.2.record item.1 with
  | ok records =>
    have each := mapM_eq_ok.mp read
    have here : row.record entity ∈ records.map Except.ok := by
      rw [← each]
      exact List.mem_map_of_mem (mem_listed.mpr stored)
    obtain ⟨record, -, read⟩ := List.mem_map.mp here
    exact absurd (Row.exists_record_iff.mp ⟨record, read.symm⟩) unsound
  | error error =>
    obtain ⟨⟨offender, culprit⟩, member, failed⟩ := mapM_eq_error read
    obtain ⟨corrupted, fault, rfl⟩ := Row.record_of_error failed
    exact ⟨offender, culprit, fault, mem_listed.mp member, corrupted, rfl⟩

/-- **What is read is what the rows hold.** -/
theorem mem_of_loadAll (loaded : loadAll ⟨versions, some rows⟩ = .ok records) :
    record ∈ records ↔
      ∃ row, rows[record.entity.key]? = some row ∧ Record.decode row.bytes = .ok record := by
  have each := loadAll_eq_ok.mp loaded
  have read : record ∈ records ↔ (.ok record : Except Error Record) ∈ records.map .ok := by simp
  rw [read, ← each, List.mem_map]
  constructor
  · rintro ⟨⟨entity, row⟩, member, found⟩
    obtain ⟨decoded, rfl⟩ := Row.record_eq_ok.mp found
    exact ⟨row, mem_listed.mp member, decoded⟩
  · rintro ⟨row, stored, decoded⟩
    exact ⟨(record.entity, row), mem_listed.mpr stored, Row.record_eq_ok.mpr ⟨decoded, rfl⟩⟩

theorem length_of_loadAll (loaded : loadAll ⟨versions, some rows⟩ = .ok records) :
    records.length = rows.size := by
  have lengths := congrArg List.length (loadAll_eq_ok.mp loaded)
  rw [List.length_map, List.length_map, length_listed] at lengths
  exact lengths.symm

/-- **Records are read by the number of their entity without sign.** -/
theorem loadAll_ordered {database : Database} (loaded : database.loadAll = .ok records) :
    records.Pairwise fun first second => first.entity.value < second.entity.value := by
  obtain ⟨versions, _ | rows⟩ := database
  · cases loaded
  · have each := loadAll_eq_ok.mp loaded
    have ordered : ((listed rows).map fun item => item.2.record item.1).Pairwise
        fun first second => ∀ one two, first = .ok one → second = .ok two →
          one.entity.value < two.entity.value := by
      refine List.pairwise_map.mpr ((listed_ordered rows).imp fun less one two here there => ?_)
      rw [(Row.record_eq_ok.mp here).2, (Row.record_eq_ok.mp there).2]
      exact less
    rw [each, List.pairwise_map] at ordered
    exact ordered.imp fun less => less _ _ rfl rfl

end Database

end Reputation
