import EntityCatalog.Proofs.Field.Stored
import EntityCatalog.Proofs.Lookup
import EntityCatalog.Proofs.Text.Blank
import Mathlib.Data.List.Nodup

namespace EntityCatalog

namespace EntityRow

structure IsOf (r : EntityRow) (e : Entity) : Prop where
  entity   : r.entity = .ok e
  accepted : Field.AreAccepted e.fields
  fields   : r.fields = fieldDocuments e.fields
  id       : r.id = e.id
  scope    : r.scope = e.scope
  name     : r.name = e.name

def withFields (r : EntityRow) (fs : List Field) : Entity :=
  { id := r.id, scope := r.scope, name := r.name, tableName := r.tableName, fields := fs,
    createdAt := r.createdAt, updatedAt := r.updatedAt }

theorem isOf_withFields {r : EntityRow} {fs : List Field} (hf : Field.AreAccepted fs)
    (h : r.fields = fieldDocuments fs) : r.IsOf (r.withFields (fs.map Field.stored)) where
  entity   := by rw [entity, h, hf.readAll_fieldDocuments]; rfl
  accepted := hf.stored
  fields   := h.trans Field.fieldDocuments_stored.symm
  id       := rfl
  scope    := rfl
  name     := rfl

theorem IsOf.withFields {r : EntityRow} {e : Entity} (h : r.IsOf e) :
    r.withFields e.fields = e := by
  have he := h.entity
  unfold EntityRow.entity at he
  cases hr : Field.readAll r.fields <;> rw [hr] at he <;> cases he
  rfl

-- The row of an entity with a stripped name, and with the table name that comes of it.
structure IsNamed (r : EntityRow) : Prop where
  nonempty  : r.name ≠ ""
  stripped  : r.name.stripped = r.name
  tableName : r.tableName = String.ofList (EntityCatalog.tableName r.name.toList)

end EntityRow

namespace Tables

variable {t t' : Tables} {r s : EntityRow} {e : Entity} {scope name id : String} {fs : List Field}

structure IsSound (t : Tables) : Prop where
  keys     : t.entities.Pairwise fun r s => clashes r s = false
  entities : ∀ r ∈ t.entities, ∃ e, r.IsOf e
  ids      : (t.records.map (·.id)).Nodup
  owned    : ∀ q ∈ t.records, ∃ r ∈ t.entities,
    r.id = q.entityId ∧ r.scope = q.scope ∧ r.name = q.entityName

theorem isSound_empty : IsSound {} where
  keys     := .nil
  entities := nofun
  ids      := .nil
  owned    := nofun

theorem clashes_comm (r s : EntityRow) : clashes r s = clashes s r := by
  simp only [clashes, Bool.beq_comm]

namespace IsSound

theorem eq_of_clashes (h : t.IsSound) (hr : r ∈ t.entities) (hs : s ∈ t.entities)
    (hc : clashes r s) : r = s := by
  refine List.Pairwise.forall_of_forall_of_flip (R := fun r s => clashes r s → r = s)
    (fun _ _ _ => rfl) (h.keys.imp ?_) (h.keys.imp ?_) hr hs hc
  case refine_1 => intro a b hn hc; simp [hn] at hc
  case refine_2 => intro a b hn hc; simp [clashes_comm b a, hn] at hc

theorem eq_of_id (h : t.IsSound) (hr : r ∈ t.entities) (hs : s ∈ t.entities) (hi : r.id = s.id) :
    r = s :=
  h.eq_of_clashes hr hs (by simp [clashes, hi])

theorem eq_of_name (h : t.IsSound) (hr : r ∈ t.entities) (hs : s ∈ t.entities)
    (hc : r.scope = s.scope) (hn : r.name = s.name) : r = s :=
  h.eq_of_clashes hr hs (by simp [clashes, hc, hn])

theorem entityRow?_eq_some_iff (h : t.IsSound) :
    t.entityRow? scope name = some r ↔ r ∈ t.entities ∧ r.scope = scope ∧ r.name = name := by
  have hu : ∀ r ∈ t.entities, ∀ s ∈ t.entities, (r.scope == scope && r.name == name) →
      (s.scope == scope && s.name == name) → r = s := by
    simp only [Bool.and_eq_true, beq_iff_eq]
    intro r hr s hs hp hq
    exact h.eq_of_name hr hs (hp.1.trans hq.1.symm) (hp.2.trans hq.2.symm)
  rw [entityRow?, List.find?_eq_some_iff_of_unique hu]
  simp

theorem entity?_eq (h : t.IsSound) (scope name : String) :
    t.entity? scope name = .ok none ∧ t.entityRow? scope name = none ∨
      ∃ e, t.entity? scope name = .ok (some e) ∧
        ∃ r ∈ t.entities, r.IsOf e ∧ e.scope = scope ∧ e.name = name := by
  cases hf : t.entityRow? scope name
  case none => exact .inl ⟨by simp [entity?, hf], rfl⟩
  case some r =>
    have ⟨hr, hs, hn⟩ := h.entityRow?_eq_some_iff.mp hf
    have ⟨e, he⟩ := h.entities r hr
    have hg : t.entity? scope name = .ok (some e) := by simp [entity?, hf, he.entity, Except.map]
    exact .inr ⟨e, hg, r, hr, he, he.scope ▸ hs, he.name ▸ hn⟩

theorem entity?_eq_some_iff (h : t.IsSound) :
    t.entity? scope name = .ok (some e) ↔
      ∃ r ∈ t.entities, r.IsOf e ∧ e.scope = scope ∧ e.name = name := by
  constructor
  case mp =>
    intro he
    rcases h.entity?_eq scope name with ⟨hn, _⟩ | ⟨e', he', hr⟩
    case inl => rw [hn] at he; cases he
    case inr => rw [he'] at he; cases he; exact hr
  case mpr =>
    intro ⟨r, hr, he, hs, hn⟩
    have hf := h.entityRow?_eq_some_iff.mpr ⟨hr, he.scope.trans hs, he.name.trans hn⟩
    simp [entity?, hf, he.entity, Except.map]

theorem entity?_of_allEntities (h : t.IsSound) {es : List Entity} (ha : t.allEntities = .ok es)
    (he : e ∈ es) : t.entity? e.scope e.name = .ok (some e) := by
  have ⟨r, hr, hre⟩ := (List.mem_mapM_iff ha).mp he
  rw [List.mem_mergeSort] at hr
  have ⟨e', ho⟩ := h.entities r hr
  cases hre.symm.trans ho.entity
  exact h.entity?_eq_some_iff.mpr ⟨r, hr, ho, rfl, rfl⟩

theorem exists_entitiesOf (h : t.IsSound) (scope : String) :
    ∃ es, t.entitiesOf scope = .ok es := by
  refine List.exists_mapM_eq_ok fun r hr => ?_
  rw [List.mem_mergeSort] at hr
  have ⟨e, he⟩ := h.entities r (List.mem_of_mem_filter hr)
  exact ⟨e, he.entity⟩

theorem accepted (h : t.IsSound) (he : t.entity? scope name = .ok (some e)) :
    Field.AreAccepted e.fields := by
  have ⟨_, _, ho, _⟩ := h.entity?_eq_some_iff.mp he
  exact ho.accepted

theorem record?_eq_some_iff (h : t.IsSound) {q : RecordRow} :
    t.record? scope name id = some q ↔
      q ∈ t.records ∧ q.scope = scope ∧ q.entityName = name ∧ q.id = id := by
  have hu : ∀ q ∈ t.recordsOf scope name, ∀ p ∈ t.recordsOf scope name, (q.id == id) →
      (p.id == id) → q = p := by
    simp only [recordsOf, List.mem_filter, beq_iff_eq]
    intro q hq p hp hi hj
    exact List.inj_on_of_nodup_map h.ids hq.1 hp.1 (hi.trans hj.symm)
  rw [record?, List.find?_eq_some_iff_of_unique hu]
  simp [recordsOf, and_assoc]

-- A record is found under one scope and name alone.
theorem key_eq_of_record? (h : t.IsSound) {q p : RecordRow} {scope' name' : String}
    (hq : t.record? scope name id = some q) (hp : t.record? scope' name' id = some p) :
    scope = scope' ∧ name = name' := by
  have ⟨hqm, hqs, hqn, hqi⟩ := h.record?_eq_some_iff.mp hq
  have ⟨hpm, hps, hpn, hpi⟩ := h.record?_eq_some_iff.mp hp
  cases List.inj_on_of_nodup_map h.ids hqm hpm (hqi.trans hpi.symm)
  exact ⟨hqs.symm.trans hps, hqn.symm.trans hpn⟩

theorem exists_entity?_of_record? (h : t.IsSound) {q : RecordRow}
    (hq : t.record? scope name id = some q) : ∃ e, t.entity? scope name = .ok (some e) := by
  have ⟨hm, hs, hn, _⟩ := h.record?_eq_some_iff.mp hq
  have ⟨r, hr, _, hrs, hrn⟩ := h.owned q hm
  have ⟨e, he⟩ := h.entities r hr
  exact ⟨e, h.entity?_eq_some_iff.mpr
    ⟨r, hr, he, he.scope.symm.trans (hrs.trans hs), he.name.symm.trans (hrn.trans hn)⟩⟩

-- A record belongs to an entity by its identifier as well as by its scope and name.
theorem entityId_eq_iff (h : t.IsSound) (hr : r ∈ t.entities) {q : RecordRow}
    (hq : q ∈ t.records) : q.entityId = r.id ↔ q.scope = r.scope ∧ q.entityName = r.name := by
  have ⟨s, hs, hi, hc, hn⟩ := h.owned q hq
  constructor
  case mp =>
    intro he
    rw [h.eq_of_id hs hr (hi.trans he)] at hc hn
    exact ⟨hc.symm, hn.symm⟩
  case mpr =>
    intro ⟨hc', hn'⟩
    rw [← hi, h.eq_of_name hs hr (hc.trans hc') (hn.trans hn')]

theorem recordCount_eq (h : t.IsSound) (hr : r ∈ t.entities) :
    t.recordCount r.id = (t.recordsOf r.scope r.name).length := by
  rw [recordCount, List.countP_eq_length_filter, recordsOf]
  congr 1
  refine List.filter_congr fun q hq => ?_
  rw [Bool.eq_iff_iff]
  simpa using h.entityId_eq_iff hr hq

end IsSound

theorem insertEntity_eq_ok_iff :
    t.insertEntity e = .ok t' ↔
      (∀ r ∈ t.entities, clashes (.ofEntity e) r = false) ∧
        t' = { t with entities := t.entities ++ [.ofEntity e] } := by
  unfold insertEntity
  dsimp only
  split
  case isTrue h =>
    have ⟨r, hr, hc⟩ := List.any_eq_true.mp h
    simpa using fun hn => by simp [hn r hr] at hc
  case isFalse h =>
    have h : ∀ r ∈ t.entities, clashes (.ofEntity e) r = false := by simpa using h
    exact ⟨fun he => ⟨h, (Except.ok.inj he).symm⟩, fun he => congrArg _ he.2.symm⟩

theorem mem_setFields {a : String} :
    s ∈ (t.setFields id fs a).entities ↔
      s ∈ t.entities ∧ s.id ≠ id ∨
        ∃ r ∈ t.entities, r.id = id ∧
          s = { r with fields := EntityRow.fieldDocuments fs, updatedAt := a } := by
  simp only [setFields, List.mem_map]
  constructor
  case mp =>
    intro ⟨r, hr, he⟩
    split at he
    case isTrue hi => exact .inr ⟨r, hr, by simpa using hi, he.symm⟩
    case isFalse hi => exact .inl (he ▸ ⟨hr, by simpa using hi⟩)
  case mpr =>
    rintro (⟨hs, hi⟩ | ⟨r, hr, hi, rfl⟩)
    case inl => exact ⟨s, hs, by simp [hi]⟩
    case inr => exact ⟨r, hr, by simp [hi]⟩

namespace IsSound

variable {a : String}

theorem insertEntity (h : t.IsSound) (hf : Field.AreAccepted e.fields)
    (hi : t.insertEntity e = .ok t') : t'.IsSound := by
  have ⟨hc, ht⟩ := insertEntity_eq_ok_iff.mp hi
  subst ht
  constructor
  case keys =>
    refine List.pairwise_append.mpr ⟨h.keys, List.pairwise_singleton _ _, ?_⟩
    intro r hr s hs
    rw [List.mem_singleton.mp hs, clashes_comm, hc r hr]
  case entities =>
    intro r hr
    rcases List.mem_append.mp hr with hr | hr
    case inl => exact h.entities r hr
    case inr =>
      exact ⟨_, EntityRow.isOf_withFields (r := r) hf (by rw [List.mem_singleton.mp hr]; rfl)⟩
  case ids => exact h.ids
  case owned =>
    intro q hq
    have ⟨r, hr, ho⟩ := h.owned q hq
    exact ⟨r, List.mem_append_left _ hr, ho⟩

theorem setFields (h : t.IsSound) (hf : Field.AreAccepted fs) : (t.setFields id fs a).IsSound where
  keys := by
    refine List.pairwise_map.mpr (h.keys.imp fun {r s} hn => ?_)
    rw [← hn]
    split <;> split <;> rfl
  entities := by
    intro s hs
    rcases mem_setFields.mp hs with ⟨hs, _⟩ | ⟨r, hr, _, rfl⟩
    case inl => exact h.entities s hs
    case inr => exact ⟨_, EntityRow.isOf_withFields hf rfl⟩
  ids := h.ids
  owned := by
    intro q hq
    have ⟨r, hr, hi, hc, hn⟩ := h.owned q hq
    by_cases he : r.id = id
    case pos => exact ⟨_, mem_setFields.mpr (.inr ⟨r, hr, he, rfl⟩), hi, hc, hn⟩
    case neg => exact ⟨r, mem_setFields.mpr (.inl ⟨hr, he⟩), hi, hc, hn⟩

theorem eraseEntity (h : t.IsSound) : (t.eraseEntity id).IsSound where
  keys     := h.keys.filter _
  entities := fun r hr => h.entities r (List.mem_of_mem_filter hr)
  ids      := h.ids.sublist (List.Sublist.map _ List.filter_sublist)
  owned    := by
    intro q hq
    have ⟨hq, hi⟩ := List.mem_filter.mp hq
    have ⟨r, hr, ho⟩ := h.owned q hq
    exact ⟨r, List.mem_filter.mpr ⟨hr, by simpa [ho.1] using hi⟩, ho⟩

theorem entity?_insertEntity (h : t.IsSound) (hf : Field.AreAccepted e.fields)
    (hi : t.insertEntity e = .ok t') :
    t'.entity? e.scope e.name = .ok (some { e with fields := e.fields.map Field.stored }) := by
  have he := EntityRow.isOf_withFields (r := .ofEntity e) hf rfl
  refine (h.insertEntity hf hi).entity?_eq_some_iff.mpr ⟨.ofEntity e, ?_, he, rfl, rfl⟩
  simp [(insertEntity_eq_ok_iff.mp hi).2]

theorem entity?_insertEntity_of_some (h : t.IsSound) (hf : Field.AreAccepted e.fields)
    (hi : t.insertEntity e = .ok t') {e' : Entity} (he : t.entity? scope name = .ok (some e')) :
    t'.entity? scope name = .ok (some e') := by
  have ⟨r, hr, ho⟩ := h.entity?_eq_some_iff.mp he
  refine (h.insertEntity hf hi).entity?_eq_some_iff.mpr ⟨r, ?_, ho⟩
  simp [(insertEntity_eq_ok_iff.mp hi).2, hr]

theorem entity?_setFields (h : t.IsSound) (he : t.entity? scope name = .ok (some e))
    (hf : Field.AreAccepted fs) :
    (t.setFields e.id fs a).entity? scope name =
      .ok (some { e with fields := fs.map Field.stored, updatedAt := a }) := by
  have ⟨r, hr, ho, hs, hn⟩ := h.entity?_eq_some_iff.mp he
  refine (h.setFields hf).entity?_eq_some_iff.mpr
    ⟨_, mem_setFields.mpr (.inr ⟨r, hr, ho.id, rfl⟩), ?_, hs, hn⟩
  rw [← ho.withFields]
  exact EntityRow.isOf_withFields hf rfl

-- Entities of one name are one and the same.
theorem id_ne_of_key_ne (h : t.IsSound) (he : t.entity? scope name = .ok (some e))
    {scope' name' : String} (hk : ¬(scope' = scope ∧ name' = name)) (hr : r ∈ t.entities)
    (hs : r.scope = scope') (hn : r.name = name') : r.id ≠ e.id := by
  have ⟨s, hm, ho, hs', hn'⟩ := h.entity?_eq_some_iff.mp he
  intro hi
  have := h.eq_of_id hr hm (hi.trans ho.id.symm)
  subst this
  exact hk ⟨hs.symm.trans (ho.scope.trans hs'), hn.symm.trans (ho.name.trans hn')⟩

theorem entity?_setFields_of_ne (h : t.IsSound) (he : t.entity? scope name = .ok (some e))
    (hf : Field.AreAccepted fs) {scope' name' : String} {e' : Entity}
    (hk : ¬(scope' = scope ∧ name' = name)) (he' : t.entity? scope' name' = .ok (some e')) :
    (t.setFields e.id fs a).entity? scope' name' = .ok (some e') := by
  have ⟨r, hr, ho, hs, hn⟩ := h.entity?_eq_some_iff.mp he'
  refine (h.setFields hf).entity?_eq_some_iff.mpr ⟨r, mem_setFields.mpr (.inl ⟨hr, ?_⟩), ho, hs, hn⟩
  exact h.id_ne_of_key_ne he hk hr (ho.scope.trans hs) (ho.name.trans hn)

theorem entity?_eraseEntity_of_ne (h : t.IsSound) (he : t.entity? scope name = .ok (some e))
    {scope' name' : String} {e' : Entity} (hk : ¬(scope' = scope ∧ name' = name))
    (he' : t.entity? scope' name' = .ok (some e')) :
    (t.eraseEntity e.id).entity? scope' name' = .ok (some e') := by
  have ⟨r, hr, ho, hs, hn⟩ := h.entity?_eq_some_iff.mp he'
  have hi := h.id_ne_of_key_ne he hk hr (ho.scope.trans hs) (ho.name.trans hn)
  exact h.eraseEntity.entity?_eq_some_iff.mpr
    ⟨r, List.mem_filter.mpr ⟨hr, by simpa using hi⟩, ho, hs, hn⟩

end IsSound

variable {q p : RecordRow} {data : Document} {a : String}

theorem insertRecord_eq_ok_iff :
    t.insertRecord q = .ok t' ↔
      ((∀ p ∈ t.records, p.id ≠ q.id) ∧ ∃ r ∈ t.entities, r.id = q.entityId) ∧
        t' = { t with records := t.records ++ [q] } := by
  have hc : ((∀ p ∈ t.records, p.id ≠ q.id) ∧ ∃ r ∈ t.entities, r.id = q.entityId) ↔
      (t.records.any (·.id == q.id) || !t.entities.any (·.id == q.entityId)) = false := by
    simp
  unfold insertRecord
  rw [hc]
  split
  case isTrue h => simp [h]
  case isFalse h => simpa [h] using eq_comm

theorem mem_setData :
    p ∈ (t.setData id data a).records ↔
      p ∈ t.records ∧ p.id ≠ id ∨
        ∃ q ∈ t.records, q.id = id ∧ p = { q with data, updatedAt := a } := by
  simp only [setData, List.mem_map]
  constructor
  case mp =>
    intro ⟨q, hq, he⟩
    split at he
    case isTrue hi => exact .inr ⟨q, hq, by simpa using hi, he.symm⟩
    case isFalse hi => exact .inl (he ▸ ⟨hq, by simpa using hi⟩)
  case mpr =>
    rintro (⟨hp, hi⟩ | ⟨q, hq, hi, rfl⟩)
    case inl => exact ⟨p, hp, by simp [hi]⟩
    case inr => exact ⟨q, hq, by simp [hi]⟩

theorem mem_eraseRecord : p ∈ (t.eraseRecord id).records ↔ p ∈ t.records ∧ p.id ≠ id := by
  simp [eraseRecord]

namespace IsSound

theorem insertRecord (h : t.IsSound) (hi : t.insertRecord q = .ok t') (hr : r ∈ t.entities)
    (ho : r.id = q.entityId ∧ r.scope = q.scope ∧ r.name = q.entityName) : t'.IsSound := by
  have ⟨⟨hf, _⟩, ht⟩ := insertRecord_eq_ok_iff.mp hi
  subst ht
  constructor
  case keys => exact h.keys
  case entities => exact h.entities
  case ids =>
    rw [List.map_append, List.nodup_append]
    refine ⟨h.ids, by simp, ?_⟩
    intro i hi j hj
    have ⟨p, hp, he⟩ := List.mem_map.mp hi
    simp only [List.map_cons, List.map_nil, List.mem_singleton] at hj
    rw [← he, hj]
    exact hf p hp
  case owned =>
    intro p hp
    rcases List.mem_append.mp hp with hp | hp
    case inl => exact h.owned p hp
    case inr => exact ⟨r, hr, List.mem_singleton.mp hp ▸ ho⟩

theorem setData (h : t.IsSound) : (t.setData id data a).IsSound where
  keys     := h.keys
  entities := h.entities
  ids      := by
    have he : (t.setData id data a).records.map (·.id) = t.records.map (·.id) := by
      simp only [Tables.setData, List.map_map]
      refine List.map_congr_left fun q _ => ?_
      simp only [Function.comp]
      split <;> rfl
    exact he ▸ h.ids
  owned    := by
    intro p hp
    rcases mem_setData.mp hp with ⟨hp, _⟩ | ⟨q, hq, _, rfl⟩
    case inl => exact h.owned p hp
    case inr => exact h.owned q hq

theorem eraseRecord (h : t.IsSound) : (t.eraseRecord id).IsSound where
  keys     := h.keys
  entities := h.entities
  ids      := h.ids.sublist (List.Sublist.map _ List.filter_sublist)
  owned    := fun p hp => h.owned p (List.mem_of_mem_filter hp)

variable {scope' name' id' : String}

theorem record?_insertRecord (h : t.IsSound) (h' : t'.IsSound) (hi : t.insertRecord q = .ok t') :
    t'.record? scope name id =
      if q.scope = scope ∧ q.entityName = name ∧ q.id = id then some q
      else t.record? scope name id := by
  have ⟨⟨hf, _⟩, ht⟩ := insertRecord_eq_ok_iff.mp hi
  have hm : q ∈ t'.records := by simp [ht]
  split
  case isTrue hq => exact h'.record?_eq_some_iff.mpr ⟨hm, hq⟩
  case isFalse hq =>
    ext p
    rw [h'.record?_eq_some_iff, h.record?_eq_some_iff, ht]
    simp only [List.mem_append, List.mem_singleton]
    constructor
    case mp =>
      rintro ⟨hp | rfl, hk⟩
      case inl => exact ⟨hp, hk⟩
      case inr => exact absurd hk hq
    case mpr => exact fun ⟨hp, hk⟩ => ⟨.inl hp, hk⟩

theorem record?_setData (h : t.IsSound) :
    (t.setData id data a).record? scope name id' =
      if id' = id then (t.record? scope name id).map fun q => { q with data, updatedAt := a }
      else t.record? scope name id' := by
  ext p
  rw [h.setData.record?_eq_some_iff, mem_setData]
  split
  case isTrue hi =>
    subst hi
    simp only [Option.map_eq_some_iff, h.record?_eq_some_iff]
    constructor
    case mp =>
      rintro ⟨⟨_, hn⟩ | ⟨q, hq, hi, rfl⟩, hk⟩
      case inl => exact absurd hk.2.2 hn
      case inr => exact ⟨q, ⟨hq, hk⟩, rfl⟩
    case mpr =>
      rintro ⟨q, ⟨hq, hk⟩, rfl⟩
      exact ⟨.inr ⟨q, hq, hk.2.2, rfl⟩, hk⟩
  case isFalse hi =>
    rw [h.record?_eq_some_iff]
    constructor
    case mp =>
      rintro ⟨⟨hp, _⟩ | ⟨q, _, hq, rfl⟩, hk⟩
      case inl => exact ⟨hp, hk⟩
      case inr => exact absurd (hk.2.2.symm.trans hq) hi
    case mpr => exact fun ⟨hp, hk⟩ => ⟨.inl ⟨hp, fun he => hi (hk.2.2.symm.trans he)⟩, hk⟩

theorem record?_eraseRecord (h : t.IsSound) :
    (t.eraseRecord id).record? scope name id' =
      if id' = id then none else t.record? scope name id' := by
  ext p
  rw [h.eraseRecord.record?_eq_some_iff, mem_eraseRecord]
  split
  case isTrue hi => simpa using fun _ hn _ _ he => hn (he.trans hi)
  case isFalse hi =>
    rw [h.record?_eq_some_iff]
    constructor
    case mp => exact fun ⟨⟨hp, _⟩, hk⟩ => ⟨hp, hk⟩
    case mpr => exact fun ⟨hp, hk⟩ => ⟨⟨hp, fun he => hi (hk.2.2.symm.trans he)⟩, hk⟩

-- With an entity go all the records of its scope and name, and no others.
theorem record?_eraseEntity (h : t.IsSound) (hr : r ∈ t.entities) :
    (t.eraseEntity r.id).record? scope name id =
      if scope = r.scope ∧ name = r.name then none else t.record? scope name id := by
  ext p
  rw [h.eraseEntity.record?_eq_some_iff]
  simp only [Tables.eraseEntity, List.mem_filter, bne_iff_ne, ne_eq]
  split
  case isTrue hk =>
    obtain ⟨rfl, rfl⟩ := hk
    simp only [reduceCtorEq, iff_false]
    -- A record of this name that is left would have to belong to another entity of the name.
    intro ⟨⟨hp, hi⟩, hs, hn, _⟩
    exact hi ((h.entityId_eq_iff hr hp).mpr ⟨hs, hn⟩)
  case isFalse hk =>
    rw [h.record?_eq_some_iff]
    constructor
    case mp => exact fun ⟨⟨hp, _⟩, ho⟩ => ⟨hp, ho⟩
    case mpr =>
      intro ⟨hp, hs, hn, hi⟩
      refine ⟨⟨hp, fun he => hk ?_⟩, hs, hn, hi⟩
      have ⟨hs', hn'⟩ := (h.entityId_eq_iff hr hp).mp he
      exact ⟨hs.symm.trans hs', hn.symm.trans hn'⟩

end IsSound

end Tables

end EntityCatalog
