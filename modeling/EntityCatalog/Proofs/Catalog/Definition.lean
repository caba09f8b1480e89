import EntityCatalog.Proofs.Catalog.History

namespace EntityCatalog

namespace Tables.IsSound

variable {t : Tables} {scope : String} {e : Entity} {es : List Entity}

theorem mem_entitiesOf_iff (h : t.IsSound) (hl : t.entitiesOf scope = .ok es) :
    e ∈ es ↔ e.scope = scope ∧ t.entity? scope e.name = .ok (some e) := by
  rw [List.mem_mapM_iff hl, h.entity?_eq_some_iff]
  simp only [List.mem_mergeSort, List.mem_filter, beq_iff_eq]
  constructor
  case mp =>
    intro ⟨r, ⟨hr, hs⟩, hre⟩
    have ⟨e', ho⟩ := h.entities r hr
    cases hre.symm.trans ho.entity
    have hs := ho.scope.symm.trans hs
    exact ⟨hs, r, hr, ho, hs, trivial⟩
  case mpr =>
    intro ⟨hs, r, hr, ho, _⟩
    exact ⟨r, ⟨hr, ho.scope.trans hs⟩, ho.entity⟩

theorem nodup_names_entitiesOf (h : t.IsSound) (hl : t.entitiesOf scope = .ok es) :
    (es.map (·.name)).Nodup := by
  have hm : es.map (·.name) = ((t.entities.filter (·.scope == scope)).mergeSort fun a b =>
      !decide (b.name < a.name)).map (·.name) := by
    refine List.map_eq_of_mapM hl fun r hr e hre => ?_
    rw [List.mem_mergeSort] at hr
    have ⟨e', ho⟩ := h.entities r (List.mem_of_mem_filter hr)
    cases hre.symm.trans ho.entity
    exact ho.name.symm
  rw [hm, ((List.mergeSort_perm _ _).map _).nodup_iff, List.Nodup, List.pairwise_map,
    List.pairwise_filter]
  refine h.keys.imp fun {r s} hc hr hs hn => ?_
  simp [clashes, eq_of_beq hr, eq_of_beq hs, hn] at hc

end Tables.IsSound

def Event.Replaces (scope name : String) : Event → Prop
  | .redefined s n | .dropped s n => s = scope ∧ n = name
  | _ => False

instance {scope name : String} : DecidablePred (Event.Replaces scope name)
  | .redefined .. | .dropped .. => inferInstanceAs (Decidable (_ ∧ _))
  | .created .. | .changed .. | .deleted .. => inferInstanceAs (Decidable False)

-- Requests that give fields to an entity. A new one is named without white space around it.
inductive Request.Gives (fields : List Field.Source) (scope : String) : Request → String → Prop
  | define (name : String) : Gives fields scope (.define scope name fields) name.stripped
  | redefine (name : String) : Gives fields scope (.redefine scope name fields) name

namespace Catalog

variable {c c' : Catalog} {scope name : String} {e : Entity} {ev : Option Event}

theorem Effect.entity?_eq {s : String} (h : c.Effect s ev c') (hc : c.IsSound)
    (he : c.tables.entity? scope name = .ok (some e))
    (hn : ∀ ev' ∈ ev, ¬ev'.Replaces scope name) :
    c'.tables.entity? scope name = .ok (some e) := by
  have ht := hc.tables
  cases h
  case nothing => exact he
  case asked => exact he
  case defined hf hi => exact ht.entity?_insertEntity_of_some hf hi he
  case redefined n e' fs a he' hf =>
    refine ht.entity?_setFields_of_ne he' hf ?_ he
    rintro ⟨rfl, rfl⟩
    exact hn _ rfl ⟨rfl, rfl⟩
  case dropped n e' he' =>
    refine ht.entity?_eraseEntity_of_ne he' ?_ he
    rintro ⟨rfl, rfl⟩
    exact hn _ rfl ⟨rfl, rfl⟩
  case created hi _ =>
    rw [(Tables.insertRecord_eq_ok_iff.mp hi).2]
    exact he
  case changed => exact he
  case deleted => exact he

theorem entity?_after (hc : c.IsSound) {calls : List Call} (hs : ∀ k ∈ calls, k.request.IsSound)
    (he : c.tables.entity? scope name = .ok (some e))
    (hn : ∀ ev ∈ c.history calls, ¬ev.Replaces scope name) :
    (c.after calls).IsSound ∧ (c.after calls).tables.entity? scope name = .ok (some e) := by
  induction calls generalizing c
  case nil => exact ⟨hc, he⟩
  case cons k ks hi =>
    have ⟨hk, hs⟩ := List.forall_mem_cons.mp hs
    have ⟨hev, hn⟩ := List.forall_mem_append.mp hn
    refine hi (hc.outcome hk) hs ?_ hn
    exact (effect_of_call hc k hk).entity?_eq hc he fun ev hm => hev ev (by simpa using hm)

section Given

variable {g : Grant} {fields : List Field.Source} {fs : List Field} {r : Reply}

theorem success?_withValidator {key : EntityKey} {o : Outcome} {entry : LogEntry}
    (h : (withValidator c key fs o entry).success? = some r) : o.success? = some r := by
  unfold withValidator at h
  split at h
  case h_1 => cases h
  case h_2 => exact h

theorem success?_warned {o : Outcome} {ws : List String} :
    { o with answer := o.answer.map ({ · with warnings := ws }) : Outcome }.success? =
      o.success?.map ({ · with warnings := ws }) := by
  unfold Outcome.success?
  cases o.answer
  case error => rfl
  case ok r => cases hr : r.ok <;> simp [Except.map, hr]

theorem fields_of_prepare (h : prepare g scope name fields = .ok e) :
    Field.readSources fields = .ok e.fields ∧ e.name = name.stripped := by
  simp only [prepare, cleanName, bind, Except.bind] at h
  split at h
  case h_1 => cases h
  case h_2 n hn =>
    split at hn <;> cases hn
    cases hf : Field.readSources fields <;> simp only [hf, reduceCtorEq, Except.ok.injEq] at h
    rw [← h]
    exact ⟨rfl, rfl⟩

theorem IsSound.entity?_define (hc : c.IsSound) (hs : ∀ s ∈ fields, s.IsSound)
    (hf : Field.readSources fields = .ok fs) (hp : fs.map Field.stored = fs)
    (hr : (c.define g scope name fields).success? = some r) :
    ∃ e, (c.define g scope name fields).catalog.tables.entity? scope name.stripped =
      .ok (some e) ∧ e.fields = fs ∧ e.toDocument = r.data := by
  unfold define at hr ⊢
  cases he : prepare g scope name fields
  case error => simp [he] at hr
  case ok e =>
    have ⟨_, ha, hsc⟩ := accepted_of_prepare hs he
    have ⟨hfe, hne⟩ := fields_of_prepare he
    cases hf.symm.trans hfe
    cases hx : c.tables.clash? scope e.name e.tableName
    case some => simp [he, hx] at hr
    case none =>
      cases hi : c.tables.insertEntity e
      case error f => cases f <;> simp [he, hx, hi] at hr
      case ok t =>
        simp only [he, hx, hi] at hr ⊢
        have ht := success?_withValidator hr
        simp only [Outcome.success?_granted, Outcome.success?_told, Option.some.injEq] at ht
        have ho := hc.tables.entity?_insertEntity ha hi
        rw [hp] at ho
        exact ⟨e, by simpa [← hsc, ← hne] using ho, rfl, by rw [← ht]⟩

theorem IsSound.entity?_redefine (hc : c.IsSound) (hs : ∀ s ∈ fields, s.IsSound)
    (hf : Field.readSources fields = .ok fs) (hp : fs.map Field.stored = fs)
    (hr : (c.redefine g scope name fields).success? = some r) :
    ∃ e, (c.redefine g scope name fields).catalog.tables.entity? scope name = .ok (some e) ∧
      e.fields = fs ∧ e.toDocument = r.data := by
  unfold redefine at hr ⊢
  rcases hc.requireEntity_eq scope name with ⟨_, hq⟩ | ⟨e, he, hq, _, hn⟩
  case inl => simp [hf, hq] at hr
  case inr =>
    subst hn
    have ho := hc.tables.entity?_setFields (a := g.now.stamp) he (.of_readSources hs hf)
    rw [hp] at ho
    simp only [hf, hq, success?_warned, Option.map_eq_some_iff] at hr ⊢
    have ⟨r', hr', hw⟩ := hr
    have ht := success?_withValidator hr'
    simp only [Outcome.success?_timed, Outcome.success?_told, Option.some.injEq] at ht
    refine ⟨{ e with fields := fs, updatedAt := g.now.stamp }, by simpa using ho, rfl, ?_⟩
    rw [← hw, ← ht]

theorem IsSound.entity?_outcome (hc : c.IsSound) {k : Call}
    (hk : k.request.Gives fields scope name) (hs : ∀ s ∈ fields, s.IsSound)
    (hf : Field.readSources fields = .ok fs) (hp : fs.map Field.stored = fs)
    (hr : (k.outcome c).success? = some r) :
    ∃ e, (k.outcome c).catalog.tables.entity? scope name = .ok (some e) ∧
      e.fields = fs ∧ e.toDocument = r.data := by
  obtain ⟨q, g⟩ := k
  cases hk
  case define n =>
    have ho : Call.outcome ⟨.define scope n fields, g⟩ c = c.define g scope n fields := rfl
    rw [ho] at hr ⊢
    exact hc.entity?_define hs hf hp hr
  case redefine =>
    have ho : Call.outcome ⟨.redefine scope name fields, g⟩ c = c.redefine g scope name fields :=
      rfl
    rw [ho] at hr ⊢
    exact hc.entity?_redefine hs hf hp hr

end Given

structure Tells (c : Catalog) (scope name : String) (data : Document) : Prop where
  alone  : (c.entity scope name).answer = .ok { ok := true, action := "get_entity", data }
  listed : ∃ es : List Entity,
    (c.entities scope).answer = .ok { ok := true, action := "list_entities", data :=
      [("count", .int es.length), ("items", .list (es.map fun e => .object e.toDocument))] } ∧
    (es.map (·.name)).Nodup ∧ ∃ e ∈ es, e.name = name ∧ e.toDocument = data

theorem IsSound.tells (hc : c.IsSound) (he : c.tables.entity? scope name = .ok (some e)) :
    c.Tells scope name e.toDocument where
  alone  := by
    rcases hc.requireEntity_eq scope name with ⟨hn, _⟩ | ⟨e', he', hq, _⟩
    case inl => cases he.symm.trans hn
    case inr =>
      cases he.symm.trans he'
      simp [entity, hq, Outcome.told]
  listed := by
    obtain ⟨es, hl⟩ := hc.tables.exists_entitiesOf scope
    obtain ⟨_, _, _, hs, hn⟩ := hc.tables.entity?_eq_some_iff.mp he
    refine ⟨es, by simp [entities, hl, Outcome.told], hc.tables.nodup_names_entitiesOf hl, e, ?_⟩
    exact ⟨(hc.tables.mem_entitiesOf_iff hl).mpr ⟨hs, hn ▸ he⟩, hn, rfl⟩

theorem after_append {calls later : List Call} :
    c.after (calls ++ later) = (c.after calls).after later := by
  induction calls generalizing c
  case nil => rfl
  case cons k ks hi => exact hi

-- Fields of documents are read back from what they are written as, and an entity that they were
-- given to is told as it was then, until other fields are given to it or it is deleted.
theorem readAll_fieldDocuments_told {values : List Value} {fs : List Field}
    (hv : ∀ v ∈ values, v.IsPlain) (hf : Field.readAll values = .ok fs) :
    Field.readAll (EntityRow.fieldDocuments fs) = .ok fs ∧
      ∀ (limits : PageLimits) (before later : List Call) (k : Call) (scope name : String)
        (r : Reply),
        (∀ k' ∈ before ++ later, k'.request.IsSound) →
        k.request.Gives (values.map .document) scope name →
        (k.outcome (after { limits } before)).success? = some r →
        (∀ ev ∈ history (k.outcome (after { limits } before)).catalog later,
          ¬ev.Replaces scope name) →
        r.data.get? "fields" = some (.list (EntityRow.fieldDocuments fs)) ∧
          (after { limits } (before ++ k :: later)).Tells scope name r.data := by
  have hd : ∀ s ∈ values.map Field.Source.document, s.IsSound := by
    simp [Field.Source.IsSound]
  have ha : Field.AreAccepted fs := .of_readSources hd hf
  have hp : fs.map Field.stored = fs := Field.map_stored_of_readAll hv hf
  refine ⟨ha.readAll_fieldDocuments.trans (by rw [hp]), ?_⟩
  intro limits before later k scope name r hs hk hr hl
  have ⟨hsb, hsl⟩ := List.forall_mem_append.mp hs
  have ⟨hc, _⟩ := (holds_empty limits).after isSound_empty hsb
  have hq : k.request.IsSound := by
    generalize k.request = q at hk
    cases hk <;> exact hd
  have ⟨e, he, hef, hed⟩ := hc.entity?_outcome hk hd hf hp hr
  subst hef
  rw [← hed]
  have ⟨hc', he'⟩ := entity?_after (hc.outcome hq) hsl he hl
  rw [after_append]
  exact ⟨rfl, hc'.tells he'⟩

def rated : List Value :=
  [.object [("name", .text "rating"), ("type", .text "number"), ("min", .text "0.5"),
     ("max", .bool true), ("default_value", .null), ("colour", .list [])],
   .object [("type", .text "string"), ("name", .text "title"), ("required", .text "yes"),
     ("unique", .null), ("min_length", .int 1), ("enableSearch", .int 0)]]

theorem readAll_fieldDocuments_rated :
    let title : Field.Source := .typed "title" "string" []
    let before : List Call := [.numbered "0" (.define "work" "task" [title])]
    let k : Call := .numbered "1" (.define "work" " daily note " (rated.map .document))
    let later : List Call :=
      [.numbered "2" (.redefine "work" "task" []), .numbered "3" (.drop "home" "daily note"),
       .numbered "4" (.create "work" "daily note" (.object [("title", .text "a")]))]
    ∃ fs r, Field.readAll rated = .ok fs ∧ Field.readAll (EntityRow.fieldDocuments fs) = .ok fs ∧
      (k.outcome (after {} before)).success? = some r ∧
      r.data.get? "fields" = some (.list (EntityRow.fieldDocuments fs)) ∧
      (after {} (before ++ k :: later)).Tells "work" "daily note" r.data := by
  intro title before k later
  have hf : (Field.readAll rated).isOk := by decide +kernel
  have hv : ∀ v ∈ rated, v.IsPlain := by
    simp [rated, Value.IsPlain, Value.plain, Value.withTexts, Value.membersWithTexts,
      Value.itemsWithTexts]
  have hr : (k.outcome (after {} before)).success?.isSome := by decide +kernel
  have hl : ∀ ev ∈ history (k.outcome (after {} before)).catalog later,
      ¬ev.Replaces "work" "daily note" := by decide +kernel
  have hs : ∀ k' ∈ before ++ later, k'.request.IsSound := by
    simp [before, later, title, Request.IsSound]
  have hk : k.request.Gives (rated.map .document) "work" "daily note" := .define " daily note "
  obtain ⟨fs, hf⟩ : ∃ fs, Field.readAll rated = .ok fs := by
    cases hf' : Field.readAll rated
    case ok fs => exact ⟨fs, rfl⟩
    case error => simp [hf', Except.isOk, Except.toBool] at hf
  obtain ⟨r, hr⟩ := Option.isSome_iff_exists.mp hr
  obtain ⟨hw, ht⟩ := readAll_fieldDocuments_told hv hf
  obtain ⟨hd, hc⟩ := ht {} before later k "work" "daily note" r hs hk hr hl
  exact ⟨fs, r, hf, hw, hr, hd, hc⟩

end Catalog

end EntityCatalog
