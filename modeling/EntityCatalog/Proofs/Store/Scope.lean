import EntityCatalog.Proofs.Store.Integrity

namespace EntityCatalog.Tables

def within (t : Tables) (s : String) : Tables :=
  ⟨t.entities.filter (·.scope == s), t.records.filter (·.scope == s)⟩

variable {t t' : Tables} {s scope name id : String} {e : Entity} {r : EntityRow} {q : RecordRow}
  {fs : List Field} {data : Document} {a : String}

theorem mem_entities_within : r ∈ (t.within s).entities ↔ r ∈ t.entities ∧ r.scope = s := by
  simp [within]

theorem mem_records_within : q ∈ (t.within s).records ↔ q ∈ t.records ∧ q.scope = s := by
  simp [within]

theorem IsSound.within (h : t.IsSound) : (t.within s).IsSound where
  keys     := h.keys.filter _
  entities := fun r hr => h.entities r (mem_entities_within.mp hr).1
  ids      := h.ids.sublist (List.Sublist.map _ List.filter_sublist)
  owned    := by
    intro q hq
    have ⟨hq, hs⟩ := mem_records_within.mp hq
    have ⟨r, hr, hi, hc, hn⟩ := h.owned q hq
    exact ⟨r, mem_entities_within.mpr ⟨hr, hc.trans hs⟩, hi, hc, hn⟩

theorem find?_within (p : EntityRow → Bool) :
    (t.within s).entities.find? (fun r => r.scope == s && p r) =
      t.entities.find? fun r => r.scope == s && p r := by
  rw [within, List.find?_filter]
  congr 1
  funext r
  cases r.scope == s <;> simp

@[simp] theorem entityRow?_within : (t.within s).entityRow? s name = t.entityRow? s name :=
  find?_within _

@[simp] theorem entity?_within : (t.within s).entity? s name = t.entity? s name := by
  simp only [entity?, entityRow?_within]

@[simp] theorem clash?_within {tableName : String} :
    (t.within s).clash? s name tableName = t.clash? s name tableName := by
  simp only [clash?, entityRow?_within, find?_within]

@[simp] theorem entitiesOf_within : (t.within s).entitiesOf s = t.entitiesOf s := by
  simp [entitiesOf, within]

@[simp] theorem recordsOf_within : (t.within s).recordsOf s name = t.recordsOf s name := by
  simp only [recordsOf, within, List.filter_filter]
  refine List.filter_congr fun q _ => ?_
  cases q.scope == s <;> simp

@[simp] theorem record?_within : (t.within s).record? s name id = t.record? s name id := by
  simp only [record?, recordsOf_within]

@[simp] theorem find_within {filter : Option Predicate} {sort : Option SortKey}
    {page : Option Page} : (t.within s).find s name filter sort page =
      t.find s name filter sort page := by
  simp only [find, recordsOf_within]

@[simp] theorem count_within {filter : Option Predicate} :
    (t.within s).count s name filter = t.count s name filter := by
  simp only [count, recordsOf_within]

theorem recordCount_setFields {i : String} :
    (t.setFields id fs a).recordCount i = t.recordCount i :=
  rfl

-- Records are counted by the entity alone, but they are of its scope.
theorem IsSound.recordCount_within (h : t.IsSound) (hr : r ∈ t.entities) (hs : r.scope = s) :
    (t.within s).recordCount r.id = t.recordCount r.id := by
  simp only [recordCount, Tables.within, List.countP_filter]
  refine List.countP_congr fun q hq => ?_
  simp only [Bool.and_eq_true, beq_iff_eq]
  exact ⟨fun hi => hi.1, fun hi => ⟨hi, ((h.entityId_eq_iff hr hq).mp hi).1.trans hs⟩⟩

theorem insertEntity_within (hs : e.scope = s) (hi : ∀ r ∈ t.entities, r.id ≠ e.id) :
    (t.within s).insertEntity e = (t.insertEntity e).map (·.within s) := by
  -- A row of another scope could be in the way by its identifier alone.
  have hk : ∀ r ∈ t.entities, clashes (.ofEntity e) r → r.scope = s := by
    intro r hr hc
    have hi : (e.id == r.id) = false := by simpa using (hi r hr).symm
    simp only [clashes, EntityRow.ofEntity, hi, Bool.false_or, Bool.and_eq_true, beq_iff_eq] at hc
    exact hc.1.symm.trans hs
  have hc : (t.within s).entities.any (clashes (.ofEntity e)) =
      t.entities.any (clashes (.ofEntity e)) := by
    rw [Bool.eq_iff_iff, List.any_eq_true, List.any_eq_true]
    constructor
    case mp =>
      rintro ⟨r, hr, hc⟩
      exact ⟨r, (mem_entities_within.mp hr).1, hc⟩
    case mpr =>
      rintro ⟨r, hr, hc⟩
      exact ⟨r, mem_entities_within.mpr ⟨hr, hk r hr hc⟩, hc⟩
  unfold insertEntity
  dsimp only
  rw [hc]
  split
  case isTrue => rfl
  case isFalse => simp [within, Except.map, EntityRow.ofEntity, hs]

@[simp] theorem setFields_within :
    (t.within s).setFields id fs a = (t.setFields id fs a).within s := by
  simp only [within, setFields, List.filter_map, mk.injEq, and_true]
  congr 1
  refine List.filter_congr fun r _ => ?_
  simp only [Function.comp]
  split <;> rfl

@[simp] theorem eraseEntity_within : (t.within s).eraseEntity id = (t.eraseEntity id).within s := by
  simp only [within, eraseEntity, List.filter_filter, Bool.and_comm]

@[simp] theorem setData_within :
    (t.within s).setData id data a = (t.setData id data a).within s := by
  simp only [within, setData, List.filter_map, mk.injEq, true_and]
  congr 1
  refine List.filter_congr fun q _ => ?_
  simp only [Function.comp]
  split <;> rfl

@[simp] theorem eraseRecord_within : (t.within s).eraseRecord id = (t.eraseRecord id).within s := by
  simp only [within, eraseRecord, List.filter_filter, Bool.and_comm]

theorem insertRecord_within (hs : q.scope = s) (hi : ∀ p ∈ t.records, p.id ≠ q.id)
    (hr : r ∈ t.entities) (hc : r.scope = s) (ho : r.id = q.entityId) :
    (t.within s).insertRecord q = (t.insertRecord q).map (·.within s) := by
  have h : t.insertRecord q = .ok { t with records := t.records ++ [q] } :=
    insertRecord_eq_ok_iff.mpr ⟨⟨hi, r, hr, ho⟩, rfl⟩
  have h' : (t.within s).insertRecord q =
      .ok { t.within s with records := (t.within s).records ++ [q] } := by
    refine insertRecord_eq_ok_iff.mpr ⟨⟨fun p hp => ?_, r, ?_, ho⟩, rfl⟩
    case refine_1 => exact hi p (mem_records_within.mp hp).1
    case refine_2 => exact mem_entities_within.mpr ⟨hr, hc⟩
  rw [h, h']
  simp [Except.map, within, hs]

theorem setFields_eq_self (h : ∀ r ∈ t.entities, r.id ≠ id) : t.setFields id fs a = t := by
  have hm : t.entities.map (fun r => if r.id == id then
      { r with fields := EntityRow.fieldDocuments fs, updatedAt := a } else r) =
      t.entities.map fun r => r :=
    List.map_congr_left fun r hr => if_neg (by simpa using h r hr)
  rw [setFields, hm, List.map_id']

theorem eraseEntity_eq_self (h : ∀ r ∈ t.entities, r.id ≠ id)
    (hq : ∀ q ∈ t.records, q.entityId ≠ id) : t.eraseEntity id = t := by
  rw [eraseEntity, List.filter_eq_self.mpr (by simpa using h),
    List.filter_eq_self.mpr (by simpa using hq)]

theorem setData_eq_self (h : ∀ q ∈ t.records, q.id ≠ id) : t.setData id data a = t := by
  have hm : t.records.map (fun q => if q.id == id then { q with data, updatedAt := a } else q) =
      t.records.map fun q => q :=
    List.map_congr_left fun q hq => if_neg (by simpa using h q hq)
  rw [setData, hm, List.map_id']

theorem eraseRecord_eq_self (h : ∀ q ∈ t.records, q.id ≠ id) : t.eraseRecord id = t := by
  rw [eraseRecord, List.filter_eq_self.mpr (by simpa using h)]

theorem within_insertEntity (hi : t.insertEntity e = .ok t') (hs : e.scope ≠ s) :
    t'.within s = t.within s := by
  rw [(insertEntity_eq_ok_iff.mp hi).2]
  simp [within, EntityRow.ofEntity, hs]

theorem within_insertRecord (hi : t.insertRecord q = .ok t') (hs : q.scope ≠ s) :
    t'.within s = t.within s := by
  rw [(insertRecord_eq_ok_iff.mp hi).2]
  simp [within, hs]

namespace IsSound

variable (h : t.IsSound) (hs : scope ≠ s)

include h hs

-- Identifiers that another scope has looked up are not those of this one.
theorem id_ne_of_entity? (he : t.entity? scope name = .ok (some e)) :
    ∀ r ∈ (t.within s).entities, r.id ≠ e.id := by
  intro r hr hi
  have ⟨hr, hc⟩ := mem_entities_within.mp hr
  have ⟨r', hr', ho, hs', _⟩ := h.entity?_eq_some_iff.mp he
  rw [h.eq_of_id hr hr' (hi.trans ho.id.symm), ho.scope, hs'] at hc
  exact hs hc

theorem id_ne_of_record? (hq : t.record? scope name id = some q) :
    ∀ p ∈ (t.within s).records, p.id ≠ id := by
  intro p hp hi
  have ⟨hp, hc⟩ := mem_records_within.mp hp
  have ⟨hq, hs', _, hi'⟩ := h.record?_eq_some_iff.mp hq
  rw [List.inj_on_of_nodup_map h.ids hp hq (hi.trans hi'.symm), hs'] at hc
  exact hs hc

theorem within_setFields (he : t.entity? scope name = .ok (some e)) :
    (t.setFields e.id fs a).within s = t.within s := by
  rw [← setFields_within, setFields_eq_self (h.id_ne_of_entity? hs he)]

theorem within_eraseEntity (he : t.entity? scope name = .ok (some e)) :
    (t.eraseEntity e.id).within s = t.within s := by
  rw [← eraseEntity_within, eraseEntity_eq_self (h.id_ne_of_entity? hs he)]
  -- The records that go with the entity are of its scope.
  intro q hq hi
  have ⟨hq, hc⟩ := mem_records_within.mp hq
  have ⟨r, hr, ho, hs', _⟩ := h.entity?_eq_some_iff.mp he
  have hk := (h.entityId_eq_iff hr hq).mp (hi.trans ho.id.symm)
  exact hs ((ho.scope.trans hs').symm.trans (hk.1.symm.trans hc))

theorem within_setData (hq : t.record? scope name id = some q) :
    (t.setData id data a).within s = t.within s := by
  rw [← setData_within, setData_eq_self (h.id_ne_of_record? hs hq)]

theorem within_eraseRecord (hq : t.record? scope name id = some q) :
    (t.eraseRecord id).within s = t.within s := by
  rw [← eraseRecord_within, eraseRecord_eq_self (h.id_ne_of_record? hs hq)]

end IsSound

end EntityCatalog.Tables
