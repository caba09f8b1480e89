import EntityCatalog.Proofs.Catalog.Definition
import EntityCatalog.Proofs.Catalog.Ending

namespace EntityCatalog

def Entity.key (e : Entity) : EntityKey := ⟨e.scope, e.name⟩

namespace Field

variable {fs : List Field} {sources : List Source}

def AreSized (values : List Value) : Prop := ∀ fs, readAll values = .ok fs → fs.all fitsLengths

theorem all_toOption_iff {values : List Value} :
    (readAll values).toOption.all (·.all fitsLengths) ↔ AreSized values := by
  unfold AreSized
  cases readAll values <;> simp [Except.toOption]

instance : DecidablePred AreSized := fun _ => decidable_of_iff _ all_toOption_iff

theorem AreAccepted.areSized_fieldDocuments_iff (h : AreAccepted fs) :
    AreSized (EntityRow.fieldDocuments fs) ↔ fs.all fitsLengths := by
  have hf : (fs.map Field.stored).all fitsLengths = fs.all fitsLengths := by
    rw [List.all_map]
    rfl
  simp only [AreSized, h.readAll_fieldDocuments, Except.ok.injEq, forall_eq', hf]

theorem not_areOversized_iff (h : readSources sources = .ok fs) :
    ¬AreOversized sources ↔ fs.all fitsLengths := by
  simp [AreOversized, h]

end Field

namespace ValidatorCache

variable {c : ValidatorCache} {key : EntityKey} {v : Validator} {es : List Entity}

def keys (c : ValidatorCache) : List EntityKey := c.entries.map (·.1)

theorem keys_insert_of_not_mem (h : key ∉ c.keys) : (c.insert key v).keys = c.keys ++ [key] := by
  have hc : c.contains key = false := by
    rw [contains, List.any_eq_false]
    rintro entry hm he
    exact h (List.mem_map.mpr ⟨entry, hm, eq_of_beq he⟩)
  simp [insert, hc, keys]

theorem warm_of_fitsLengths (hf : ∀ e ∈ es, Field.AreAccepted e.fields)
    (hl : ∀ e ∈ es, e.fields.all Field.fitsLengths) (hn : (c.keys ++ es.map Entity.key).Nodup) :
    ∃ c', c.warm es = (c', .ok es.length) ∧ c'.keys = c.keys ++ es.map Entity.key := by
  induction es generalizing c
  case nil => exact ⟨c, rfl, by simp⟩
  case cons e es hi =>
    have ⟨hfe, hf⟩ := List.forall_mem_cons.mp hf
    have ⟨hle, hl⟩ := List.forall_mem_cons.mp hl
    have ⟨v, hg⟩ := (Validator.generate_isOk_iff hfe).mpr hle
    have hk : e.key ∉ c.keys := by
      intro hm
      exact (List.nodup_append.mp hn).2.2 _ hm e.key (by simp) rfl
    have hk : (c.insert e.key v).keys = c.keys ++ [e.key] := keys_insert_of_not_mem hk
    have ⟨c', hw, hc⟩ := @hi (c.insert e.key v) hf hl (by simpa [hk] using hn)
    have hp : c.put ⟨e.scope, e.name⟩ e.fields = .ok (v, c.insert e.key v) := by
      simp [put, hg, bind, Except.bind, Entity.key]
    exact ⟨c', by simp [warm, hp, hw], by simp [hc, hk]⟩

-- The first entity whose lengths are too large puts an end to it.
theorem warm_of_not_fitsLengths (hf : ∀ e ∈ es, Field.AreAccepted e.fields)
    (hl : ∃ e ∈ es, ¬e.fields.all Field.fitsLengths) :
    (c.warm es).2 = .error .limitOutOfRange := by
  induction es generalizing c
  case nil => simp at hl
  case cons e es hi =>
    have ⟨hfe, hf⟩ := List.forall_mem_cons.mp hf
    have ⟨rules, _, hg⟩ := Validator.exists_generate hfe
    by_cases he : e.fields.all Field.fitsLengths
    case neg =>
      rw [if_neg he] at hg
      simp [warm, put, hg, bind, Except.bind]
    case pos =>
      rw [if_pos he] at hg
      have hl := ((List.exists_mem_cons_iff _ _ _).mp hl).resolve_left (not_not_intro he)
      have hi := @hi (c.insert ⟨e.scope, e.name⟩ ⟨e.fields, rules⟩) hf hl
      simp only [warm, put, hg, bind, Except.bind]
      split <;> simp_all

end ValidatorCache

namespace Tables

variable {t t' : Tables} {e : Entity} {id : String} {fs : List Field}

def IsSized (t : Tables) : Prop := ∀ r ∈ t.entities, Field.AreSized r.fields

instance : Decidable t.IsSized := inferInstanceAs (Decidable (∀ r ∈ t.entities, _))

theorem fields_of_entity {r : EntityRow} (h : r.entity = .ok e) :
    Field.readAll r.fields = .ok e.fields := by
  unfold EntityRow.entity at h
  cases hr : Field.readAll r.fields <;> rw [hr] at h <;> cases h
  rfl

theorem IsSound.exists_allEntities (h : t.IsSound) :
    ∃ es, t.allEntities = .ok es ∧ es.length = t.entities.length ∧ (es.map Entity.key).Nodup ∧
      (∀ e ∈ es, Field.AreAccepted e.fields) ∧
      (t.IsSized ↔ ∀ e ∈ es, e.fields.all Field.fitsLengths) := by
  obtain ⟨es, ha⟩ : ∃ es, t.allEntities = .ok es := by
    refine List.exists_mapM_eq_ok fun r hr => ?_
    obtain ⟨e, he⟩ := h.entities r (List.mem_mergeSort.mp hr)
    exact ⟨e, he.entity⟩
  have hm (e : Entity) : e ∈ es ↔ ∃ r ∈ t.entities, r.entity = .ok e := by
    simp only [List.mem_mapM_iff ha, List.mem_mergeSort]
  have hk : es.map Entity.key = (t.entities.mergeSort fun a b =>
      if a.scope = b.scope then !decide (b.name < a.name) else decide (a.scope < b.scope)).map
        fun r => ⟨r.scope, r.name⟩ := by
    refine List.map_eq_of_mapM ha fun r hr e hre => ?_
    obtain ⟨e', ho⟩ := h.entities r (List.mem_mergeSort.mp hr)
    cases hre.symm.trans ho.entity
    rw [Entity.key, ho.scope, ho.name]
  refine ⟨es, ha, ?_, ?_, fun e he => ?_, ?_⟩
  case refine_1 => simpa using congrArg List.length hk
  case refine_2 =>
    rw [hk, ((List.mergeSort_perm _ _).map _).nodup_iff, List.Nodup, List.pairwise_map]
    refine h.keys.imp fun {r s} hc hn => ?_
    simp [clashes, (EntityKey.mk.inj hn).1, (EntityKey.mk.inj hn).2] at hc
  case refine_3 =>
    obtain ⟨r, hr, hre⟩ := (hm e).mp he
    obtain ⟨e', ho⟩ := h.entities r hr
    cases hre.symm.trans ho.entity
    exact ho.accepted
  case refine_4 =>
    constructor
    case mp =>
      intro hs e he
      obtain ⟨r, hr, hre⟩ := (hm e).mp he
      exact hs r hr _ (fields_of_entity hre)
    case mpr =>
      intro hl r hr fs hf
      obtain ⟨e, ho⟩ := h.entities r hr
      cases hf.symm.trans (fields_of_entity ho.entity)
      exact hl e ((hm e).mpr ⟨r, hr, ho.entity⟩)

namespace IsSized

theorem insertEntity (h : t.IsSized) (hf : Field.AreAccepted e.fields)
    (hl : e.fields.all Field.fitsLengths) (hi : t.insertEntity e = .ok t') : t'.IsSized := by
  intro r hr
  rw [(insertEntity_eq_ok_iff.mp hi).2] at hr
  rcases List.mem_append.mp hr with hr | hr
  case inl => exact h r hr
  case inr => exact List.mem_singleton.mp hr ▸ hf.areSized_fieldDocuments_iff.mpr hl

theorem setFields (h : t.IsSized) (hf : Field.AreAccepted fs) (hl : fs.all Field.fitsLengths)
    {a : String} : (t.setFields id fs a).IsSized := by
  intro s hs
  rcases mem_setFields.mp hs with ⟨hs, _⟩ | ⟨r, _, _, rfl⟩
  case inl => exact h s hs
  case inr => exact hf.areSized_fieldDocuments_iff.mpr hl

theorem eraseEntity (h : t.IsSized) : (t.eraseEntity id).IsSized :=
  fun r hr => h r (List.mem_of_mem_filter hr)

end IsSized

end Tables

namespace Catalog

variable {c : Catalog} {t : Tables} {limits : PageLimits} {g : Grant} {scope name id : String}
  {data : Value} {fields : List Field.Source}

theorem opened_of_isSized (h : t.IsSound) (hs : t.IsSized) :
    ∃ c log, opened t limits = .ok (c, log) ∧ c.tables = t ∧
      c.validators.size = t.entities.length := by
  have ⟨es, ha, hn, hk, hf, hl⟩ := h.exists_allEntities
  have ⟨vs, hw, hv⟩ := ValidatorCache.warm_of_fitsLengths (c := .empty) hf (hl.mp hs) (by simpa)
  have hv : vs.size = t.entities.length := by
    have hv := congrArg List.length hv
    simpa [ValidatorCache.keys, ValidatorCache.empty, ValidatorCache.size, hn] using hv
  exact ⟨_, _, by simp only [opened, warm, ha, hw]; rfl, rfl, hv⟩

theorem opened_of_not_isSized (h : t.IsSound) (hs : ¬t.IsSized) :
    opened t limits = .error .limitOutOfRange := by
  have ⟨es, ha, _, _, hf, hl⟩ := h.exists_allEntities
  rw [hl, not_forall₂] at hs
  have hl : ∃ e ∈ es, ¬e.fields.all Field.fitsLengths := by simpa using hs
  have hw := ValidatorCache.warm_of_not_fitsLengths (c := .empty) hf hl
  simp only [opened, warm, ha, hw]

theorem tables_validatorOf {e : Entity} {v : Validator} {d : Catalog} {log : List LogEntry}
    (h : c.validatorOf e = (.ok (v, d), log)) : d.tables = c.tables := by
  unfold validatorOf at h
  dsimp only at h
  split at h <;> cases h
  rfl

theorem entities_create :
    (c.create g scope name data).catalog.tables.entities = c.tables.entities := by
  unfold create
  dsimp only
  split
  case h_1 => simp
  case h_2 e _ =>
    split
    case h_1 => simp
    case h_2 v d log hv =>
      have hd := tables_validatorOf hv
      split
      case h_1 => simp [hd]
      case h_2 =>
        split
        case h_1 => simp [hd]
        case h_2 t hi => simp [(Tables.insertRecord_eq_ok_iff.mp hi).2, hd]

theorem entities_update :
    (c.update g scope name id data).catalog.tables.entities = c.tables.entities := by
  unfold update
  dsimp only
  split
  case h_1 => simp
  case h_2 =>
    split
    case h_1 => simp
    case h_2 v d log hv =>
      have hd := tables_validatorOf hv
      split <;> simp [hd, Tables.setData]

theorem entities_delete :
    (c.delete scope name id).catalog.tables.entities = c.tables.entities := by
  unfold delete
  dsimp only
  split <;> simp [Tables.eraseRecord]

theorem isSized_define (h : c.tables.IsSized) (hs : ∀ s ∈ fields, s.IsSound)
    (ho : ¬Field.AreOversized fields) :
    (c.define g scope name fields).catalog.tables.IsSized := by
  unfold define
  dsimp only
  split
  case h_1 => simpa using h
  case h_2 e hp =>
    have ⟨_, hf, _⟩ := accepted_of_prepare hs hp
    have hl := (Field.not_areOversized_iff (fields_of_prepare hp).1).mp ho
    split
    case h_1 => simpa using h
    case h_2 =>
      split
      case h_1 => simpa using h
      case h_2 => simpa using h
      case h_3 t hi => simpa using h.insertEntity hf hl hi

theorem isSized_redefine (h : c.tables.IsSized) (hs : ∀ s ∈ fields, s.IsSound)
    (ho : ¬Field.AreOversized fields) :
    (c.redefine g scope name fields).catalog.tables.IsSized := by
  unfold redefine
  dsimp only
  split
  case h_1 => simpa using h
  case h_2 fs hr =>
    have hl := (Field.not_areOversized_iff hr).mp ho
    split
    case h_1 => simpa using h
    case h_2 => simpa using h.setFields (.of_readSources hs hr) hl

theorem isSized_drop (h : c.tables.IsSized) :
    (c.drop scope name).catalog.tables.IsSized := by
  unfold drop
  dsimp only
  split
  case h_1 => simpa using h
  case h_2 => simpa using h.eraseEntity

-- Only fields that are too large on their own make an entity that is.
theorem isSized_outcome (h : c.tables.IsSized) {k : Call} (hk : k.request.IsSound)
    (ho : ¬k.request.Outgrows) : (k.outcome c).catalog.tables.IsSized := by
  obtain ⟨r, g⟩ := k
  cases r
  case define s n fs =>
    have hd : (c.define g s n fs).catalog.tables.IsSized := isSized_define h hk ho
    exact hd
  case redefine s n fs =>
    have hd : (c.redefine g s n fs).catalog.tables.IsSized := isSized_redefine h hk ho
    exact hd
  case drop => exact isSized_drop h
  case entities => exact catalog_entities ▸ h
  case entity => exact catalog_entity ▸ h
  case get => exact catalog_get ▸ h
  case list => exact catalog_listed ▸ h
  case create s n d => exact fun r hr => h r (entities_create (c := c) (g := g) ▸ hr)
  case update s n i d => exact fun r hr => h r (entities_update (c := c) (g := g) ▸ hr)
  case delete s n i => exact fun r hr => h r (entities_delete (c := c) ▸ hr)

theorem isSized_after (h : c.tables.IsSized) {calls : List Call}
    (hs : ∀ k ∈ calls, k.request.IsSound) (ho : ∀ k ∈ calls, ¬k.request.Outgrows) :
    (c.after calls).tables.IsSized := by
  induction calls generalizing c
  case nil => exact h
  case cons k ks hi =>
    have ⟨hk, hs⟩ := List.forall_mem_cons.mp hs
    have ⟨hok, ho⟩ := List.forall_mem_cons.mp ho
    exact hi (isSized_outcome h hk hok) hs ho

-- What a run leaves can be read again. It opens, with a validator for each entity, unless there is
-- an entity whose texts may be longer than can be counted, and no other request makes one. Fields
-- of documents have a validator, and have one again when they come back, unless they are of that
-- kind.
theorem opened_after {limits : PageLimits} {calls : List Call}
    (hs : ∀ k ∈ calls, k.request.IsSound) (limits' : PageLimits) :
    let t := (after { limits } calls).tables
    (∃ es, t.allEntities = .ok es ∧ es.length = t.entities.length) ∧
      (t.IsSized → ∃ c log, opened t limits' = .ok (c, log) ∧ c.tables = t ∧
        c.validators.size = t.entities.length) ∧
      (¬t.IsSized → opened t limits' = .error .limitOutOfRange) ∧
      ((∀ k ∈ calls, ¬k.request.Outgrows) → t.IsSized) ∧
      ∀ sources fs, (∀ s ∈ sources, s.IsSound) → Field.readSources sources = .ok fs →
        ∃ gs, Field.readAll (EntityRow.fieldDocuments fs) = .ok gs ∧
          ((∃ v, Validator.generate fs = .ok v) ↔ ¬Field.AreOversized sources) ∧
          ((∃ v, Validator.generate gs = .ok v) ↔ ¬Field.AreOversized sources) := by
  have hr : Reachable limits (after { limits } calls) := .after .empty hs
  have ht := hr.isSound.tables
  have ⟨es, ha, hn, _⟩ := ht.exists_allEntities
  refine ⟨⟨es, ha, hn⟩, opened_of_isSized ht, opened_of_not_isSized ht, ?_, ?_⟩
  case refine_1 => exact isSized_after (by simp [Tables.IsSized]) hs
  case refine_2 =>
    intro sources fs hs hf
    have hfs := Field.AreAccepted.of_readSources hs hf
    have hg := (Validator.generate_isOk_iff hfs).trans (Field.not_areOversized_iff hf).symm
    exact ⟨_, hfs.readAll_fieldDocuments, hg, (Validator.exists_generate_stored_iff hfs).trans hg⟩

def recovered : List Call :=
  let title : Field.Source := .typed "title" "string" [("maxLength", .int 80)]
  [oversized, .numbered "1" (.define "work" "note" [title]),
   .numbered "2" (.redefine "home" "Note" [title])]

theorem opened_recovered :
    (∀ k ∈ recovered, k.request.IsSound) ∧
      ∃ c log, opened (after {} recovered).tables {} = .ok (c, log) ∧ c.validators.size = 2 := by
  have hs : ∀ k ∈ recovered, k.request.IsSound := by
    simp [recovered, oversized, Request.IsSound]
  have ht : (after {} recovered).tables.IsSized := by decide +kernel
  have hn : (after {} recovered).tables.entities.length = 2 := by decide +kernel
  obtain ⟨_, ho, _⟩ := @opened_after {} recovered hs {}
  obtain ⟨c, log, h, _, hv⟩ := ho ht
  exact ⟨hs, c, log, h, hv.trans hn⟩

theorem not_opened_oversized :
    (∀ k ∈ [oversized], k.request.IsSound) ∧
      opened (after {} [oversized]).tables {} = .error .limitOutOfRange := by
  have hs : ∀ k ∈ [oversized], k.request.IsSound := by simp [oversized, Request.IsSound]
  have ht : ¬(after {} [oversized]).tables.IsSized := by decide +kernel
  exact ⟨hs, opened_of_not_isSized (Reachable.after .empty hs).isSound.tables ht⟩

end Catalog

end EntityCatalog
