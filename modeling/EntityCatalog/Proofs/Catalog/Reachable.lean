import EntityCatalog.Proofs.Catalog.History
import EntityCatalog.Proofs.Catalog.Transparency

namespace EntityCatalog

namespace Tables

variable {t t' : Tables} {e : Entity} {r : EntityRow} {scope name id : String}

def rivals (t : Tables) (scope name tableName : String) : List EntityRow :=
  t.entities.filter fun r => r.scope == scope && (r.name == name || r.tableName == tableName)

def IsNamed (t : Tables) : Prop := ∀ r ∈ t.entities, r.IsNamed

namespace IsNamed

theorem insertEntity (h : t.IsNamed) (he : (EntityRow.ofEntity e).IsNamed)
    (hi : t.insertEntity e = .ok t') : t'.IsNamed := by
  intro r hr
  rw [(insertEntity_eq_ok_iff.mp hi).2] at hr
  rcases List.mem_append.mp hr with hr | hr
  case inl => exact h r hr
  case inr => exact List.mem_singleton.mp hr ▸ he

theorem setFields (h : t.IsNamed) {fs : List Field} {a : String} :
    (t.setFields id fs a).IsNamed := by
  intro s hs
  rcases mem_setFields.mp hs with ⟨hs, _⟩ | ⟨r, hr, _, rfl⟩
  case inl => exact h s hs
  case inr => exact ⟨(h r hr).nonempty, (h r hr).stripped, (h r hr).tableName⟩

theorem eraseEntity (h : t.IsNamed) : (t.eraseEntity id).IsNamed :=
  fun r hr => h r (List.mem_of_mem_filter hr)

end IsNamed

section Rivals

variable (hs : t.IsSound) (hn : t.IsNamed)

include hn in
-- An entity of the name has its table name as well, so that the table name alone decides.
theorem rivals_eq : t.rivals scope name (String.ofList (tableName name.toList)) =
    t.entities.filter fun r =>
      r.scope == scope && r.tableName == String.ofList (tableName name.toList) := by
  refine List.filter_congr fun r hr => ?_
  rw [Bool.eq_iff_iff]
  simp only [Bool.and_eq_true, Bool.or_eq_true, beq_iff_eq]
  constructor
  case mp =>
    rintro ⟨hs, rfl | ht⟩
    case inl => exact ⟨hs, (hn r hr).tableName⟩
    case inr => exact ⟨hs, ht⟩
  case mpr => exact fun ⟨hs, ht⟩ => ⟨hs, .inr ht⟩

include hs in
theorem IsSound.eq_of_tableName {s : EntityRow} (hr : r ∈ t.entities) (hm : s ∈ t.entities)
    (hc : r.scope = s.scope) (ht : r.tableName = s.tableName) : r = s :=
  hs.eq_of_clashes hr hm (by simp [clashes, hc, ht])

include hs hn in
theorem length_rivals_le :
    (t.rivals scope name (String.ofList (tableName name.toList))).length ≤ 1 := by
  have hu := hs.keys.filter fun r =>
    r.scope == scope && r.tableName == String.ofList (tableName name.toList)
  rw [rivals_eq hn]
  -- Two of them would have one table name.
  rcases hl : t.entities.filter _ with _ | ⟨r, _ | ⟨s, rest⟩⟩
  case nil => simp
  case cons.nil => simp
  case cons.cons =>
    have hp : ∀ q ∈ [r, s], q.scope = scope ∧
        q.tableName = String.ofList (tableName name.toList) := by
      intro q hq
      have hq : q ∈ r :: s :: rest := List.mem_of_mem_take (i := 2) hq
      rw [← hl] at hq
      simpa using List.of_mem_filter hq
    rw [hl] at hu
    have hd := List.rel_of_pairwise_cons hu (List.mem_cons_self ..)
    simp [clashes, hp r, hp s] at hd

include hs hn in
theorem clash?_eq : t.clash? scope name (String.ofList (tableName name.toList)) =
    (t.rivals scope name (String.ofList (tableName name.toList))).head?.map (·.name) := by
  rw [rivals_eq hn, List.head?_filter, clash?]
  cases hr : t.entityRow? scope name
  case none => rfl
  case some r =>
    have ⟨hm, hc, hn'⟩ := hs.entityRow?_eq_some_iff.mp hr
    have ht : r.tableName = String.ofList (tableName name.toList) := hn' ▸ (hn r hm).tableName
    have hu : ∀ p ∈ t.entities, ∀ q ∈ t.entities,
        (p.scope == scope && p.tableName == String.ofList (tableName name.toList)) →
        (q.scope == scope && q.tableName == String.ofList (tableName name.toList)) → p = q := by
      simp only [Bool.and_eq_true, beq_iff_eq]
      intro p hp q hq hpt hqt
      exact hs.eq_of_tableName hp hq (hpt.1.trans hqt.1.symm) (hpt.2.trans hqt.2.symm)
    rw [(List.find?_eq_some_iff_of_unique hu).mpr ⟨hm, by simp [hc, ht]⟩]
    rfl

include hn in
theorem insertEntity_eq_of_new (he : (EntityRow.ofEntity e).IsNamed)
    (hi : ∀ r ∈ t.entities, r.id ≠ e.id)
    (ht : ∀ r ∈ t.entities, r.scope = e.scope → r.tableName ≠ e.tableName) :
    t.insertEntity e = .ok { t with entities := t.entities ++ [.ofEntity e] } := by
  refine insertEntity_eq_ok_iff.mpr ⟨fun r hr => ?_, rfl⟩
  have hk : e.scope = r.scope → e.name ≠ r.name ∧ e.tableName ≠ r.tableName := by
    intro hs
    have ht := ht r hr hs.symm
    refine ⟨fun hn' => ht ?_, ht.symm⟩
    rw [(hn r hr).tableName, ← hn']
    exact he.tableName.symm
  simpa [clashes, EntityRow.ofEntity, (hi r hr).symm] using hk

include hs hn in
theorem clash?_eq_none_iff :
    t.clash? scope name (String.ofList (tableName name.toList)) = none ↔
      ∀ r ∈ t.entities, r.scope = scope → r.tableName ≠ String.ofList (tableName name.toList) := by
  rw [clash?_eq hs hn, rivals_eq hn]
  simp

end Rivals

end Tables

namespace Catalog

variable {c c' : Catalog} {ev : Option Event} {limits : PageLimits} {g : Grant}
  {scope name : String} {fields : List Field.Source} {fs : List Field}

theorem Effect.isNamed (h : c.Effect scope ev c') (hc : c.tables.IsNamed) : c'.tables.IsNamed := by
  cases h
  case nothing => exact hc
  case asked => exact hc
  case defined hn _ hi => exact hc.insertEntity hn hi
  case redefined => exact hc.setFields
  case dropped => exact hc.eraseEntity
  case created hi _ => rw [(Tables.insertRecord_eq_ok_iff.mp hi).2]; exact hc
  case changed => exact hc
  case deleted => exact hc

inductive Reachable (limits : PageLimits) : Catalog → Prop
  | empty : Reachable limits { limits }
  | call {c : Catalog} {k : Call} :
    Reachable limits c → k.request.IsSound → Reachable limits (k.outcome c).catalog
  | upkeep {c c' : Catalog} {u : Upkeep} :
    Reachable limits c → u.run c = .ok c' → Reachable limits c'

namespace Reachable

theorem after (h : Reachable limits c) {calls : List Call} (hs : ∀ k ∈ calls, k.request.IsSound) :
    Reachable limits (c.after calls) := by
  induction calls generalizing c
  case nil => exact h
  case cons k ks hi =>
    have ⟨hk, hs⟩ := List.forall_mem_cons.mp hs
    exact hi (h.call hk) hs

theorem isSound (h : Reachable limits c) : c.IsSound := by
  induction h
  case empty => exact isSound_empty
  case call _ hk hc => exact hc.outcome hk
  case upkeep _ hu hc => exact (Upkeep.isSound_alike hc hu).1

theorem isNamed (h : Reachable limits c) : c.tables.IsNamed := by
  induction h
  case empty => exact nofun
  case call hr hk hc => exact (effect_of_call hr.isSound _ hk).isNamed hc
  case upkeep hr hu hc => exact (Upkeep.isSound_alike hr.isSound hu).2.tables ▸ hc

end Reachable

end Catalog

def Request.made? : Request → Option IdKind
  | .define .. => some .definition
  | .create .. => some .record
  | _ => none

def Tables.ids (t : Tables) : IdKind → List String
  | .definition => t.entities.map (·.id)
  | .record => t.records.map (·.id)

namespace Call

-- What a call may take as an identifier is not in use.
def IsFresh (k : Call) (t : Tables) : Prop :=
  ∀ kind ∈ k.request.made?, kind.idOf k.grant.digits ∉ t.ids kind

instance (k : Call) (t : Tables) : Decidable (k.IsFresh t) :=
  inferInstanceAs (Decidable (∀ kind ∈ k.request.made?, _ ∉ t.ids kind))

variable {t : Tables} {g : Grant} {scope name : String}

theorem IsFresh.define {fields : List Field.Source}
    (h : IsFresh ⟨.define scope name fields, g⟩ t) :
    ∀ r ∈ t.entities, r.id ≠ IdKind.definition.idOf g.digits := by
  simpa [IsFresh, Request.made?, Tables.ids] using h

theorem IsFresh.create {data : Value} (h : IsFresh ⟨.create scope name data, g⟩ t) :
    ∀ q ∈ t.records, q.id ≠ IdKind.record.idOf g.digits := by
  simpa [IsFresh, Request.made?, Tables.ids] using h

end Call

namespace Outcome

variable {o : Outcome}

def code? (o : Outcome) : Option String :=
  match o.answer with
  | .ok r => if r.ok then none else r.rejection.map (·.code)
  | .error _ => none

@[simp] theorem code?_failed_rejected {c : Catalog} {action : String} {e : CatalogError} :
    (failed c action (.rejected e)).code? = some e.code :=
  rfl

@[simp] theorem code?_granted : o.granted.code? = o.code? := rfl

end Outcome

namespace Catalog

variable {c : Catalog} {limits : PageLimits} {g : Grant} {scope name : String}
  {fields : List Field.Source} {fs : List Field}

@[simp] theorem code?_withValidator {d : Catalog} {key : EntityKey} {entry : LogEntry}
    {action : String} {data : Document} :
    (withValidator c key fs (Outcome.told d action data).granted entry).code? = none := by
  cases hg : Validator.generate fs <;>
    simp [withValidator, ValidatorCache.put, hg, bind, Except.bind, Outcome.code?, Outcome.told,
      Outcome.granted]

@[simp] theorem code_conflict {existing tableName : String} :
    (conflict existing name tableName).code = "CONFLICT" := by
  unfold conflict
  split <;> rfl

structure IsConsistent (c : Catalog) : Prop where
  unique : c.tables.entities.Pairwise fun r s =>
    r.scope = s.scope → r.name ≠ s.name ∧ r.tableName ≠ s.tableName
  named  : ∀ r ∈ c.tables.entities, r.IsNamed
  fields : ∀ r ∈ c.tables.entities,
    ∃ fs, Field.readAll r.fields = .ok fs ∧ (fs.map (·.name)).Nodup
  owned  : ∀ q ∈ c.tables.records, ∃ r ∈ c.tables.entities,
    r.id = q.entityId ∧ r.scope = q.scope ∧ r.name = q.entityName
  cached : ∀ entry ∈ c.validators.entries, ∃ r ∈ c.tables.entities,
    r.scope = entry.1.scope ∧ r.name = entry.1.name

theorem IsSound.consistent (hc : c.IsSound) (hn : c.tables.IsNamed) : c.IsConsistent where
  unique := by
    refine hc.tables.keys.imp fun {r s} h hs => ?_
    simp only [Tables.clashes, hs, BEq.rfl, Bool.true_and, Bool.or_eq_false_iff] at h
    simpa using h.2
  named  := hn
  fields := by
    intro r hr
    obtain ⟨e, he⟩ := hc.tables.entities r hr
    have ha := he.fields ▸ he.accepted.readAll_fieldDocuments
    exact ⟨_, ha, he.accepted.stored.names⟩
  owned  := hc.tables.owned
  cached := by
    rintro ⟨key, v⟩ hv
    have hs : (c.validators.get? key).isSome := List.lookup_isSome_iff.mpr ⟨_, hv, BEq.rfl⟩
    obtain ⟨w, hw⟩ := Option.isSome_iff_exists.mp hs
    obtain ⟨e, he, _⟩ := hc.validators key w hw
    obtain ⟨r, hr, ho, hs, hn⟩ := hc.tables.entity?_eq_some_iff.mp he
    exact ⟨r, hr, ho.scope.trans hs, ho.name.trans hn⟩

theorem exists_tableName_iff (hn : c.tables.IsNamed) :
    (∃ r ∈ c.tables.entities, r.scope = scope ∧
        tableName r.name.toList = tableName name.toList) ↔
      ∃ r ∈ c.tables.entities, r.scope = scope ∧
        r.tableName = String.ofList (tableName name.toList) := by
  refine exists_congr fun r => and_congr_right fun hr => and_congr_right fun _ => ?_
  rw [(hn r hr).tableName, String.ofList_inj]

theorem code?_define (hc : c.IsSound) (hn : c.tables.IsNamed)
    (hf : Field.readSources fields = .ok fs) (hb : name ≠ "") (hs : name.stripped = name)
    (hi : (Call.mk (.define scope name fields) g).IsFresh c.tables) :
    (c.define g scope name fields).code? = some "CONFLICT" ↔
      ∃ r ∈ c.tables.entities, r.scope = scope ∧
        tableName r.name.toList = tableName name.toList := by
  have hk : c.tables.clash? scope name (String.ofList (tableName name.toList)) = none ↔ _ :=
    Tables.clash?_eq_none_iff hc.tables hn
  rw [exists_tableName_iff hn]
  simp only [define, prepare, cleanName, hs, hb, if_false, hf, bind, Except.bind]
  cases he : c.tables.clash? scope name (String.ofList (tableName name.toList))
  case some existing =>
    have hr : ∃ r ∈ c.tables.entities, r.scope = scope ∧
        r.tableName = String.ofList (tableName name.toList) := by
      simpa [he] using mt hk.mpr
    simpa using hr
  case none =>
    have hr := hk.mp he
    let e : Entity :=
      { id := IdKind.definition.idOf g.digits, scope, name,
        tableName := String.ofList (tableName name.toList), fields := fs,
        createdAt := g.now.stamp, updatedAt := g.now.stamp }
    have hx : c.tables.insertEntity e = .ok _ :=
      Tables.insertEntity_eq_of_new hn ⟨hb, hs, rfl⟩ hi.define hr
    simpa [e, hx] using hr

-- Whatever calls and upkeep lead to is consistent. One entity at most stands in the way of a new
-- one, and it has the table name of the new one.
theorem Reachable.isConsistent (h : Reachable limits c) :
    c.IsConsistent ∧
      (∀ scope name,
        let t := String.ofList (tableName name.toList)
        (c.tables.rivals scope name t).length ≤ 1 ∧
          c.tables.clash? scope name t = (c.tables.rivals scope name t).head?.map (·.name)) ∧
      ∀ g scope name fields fs, Field.readSources fields = .ok fs →
        name ≠ "" → name.stripped = name →
        (Call.mk (.define scope name fields) g).IsFresh c.tables →
        ((c.define g scope name fields).code? = some "CONFLICT" ↔
          ∃ r ∈ c.tables.entities, r.scope = scope ∧
            tableName r.name.toList = tableName name.toList) := by
  have hc := h.isSound
  have hn := h.isNamed
  refine ⟨hc.consistent hn, fun scope name => ?_, ?_⟩
  case refine_1 => exact ⟨Tables.length_rivals_le hc.tables hn, Tables.clash?_eq hc.tables hn⟩
  case refine_2 => exact fun g scope name fields fs hf hb hs hi => code?_define hc hn hf hb hs hi

def shared : List Call :=
  let title : Field.Source := .typed "title" "string" []
  [.numbered "0" (.define "home" " Daily  note " [title]),
   .numbered "1" (.define "work" "daily note" [title]),
   .numbered "2" (.create "work" "daily note" (.object [("title", .text "a")])),
   .numbered "3" (.define "home" "gone" [title]),
   .numbered "4" (.drop "home" "gone")]

theorem reachable_shared : Reachable {} (after {} shared) := by
  refine .after .empty ?_
  simp only [shared, List.forall_mem_cons, Call.request_numbered, Request.IsSound]
  simp

theorem isConsistent_shared :
    let c : Catalog := after {} shared
    let g := (Call.numbered "5" (.define "home" "DAILY NOTE" [])).grant
    c.IsConsistent ∧ (c.define g "home" "DAILY NOTE" []).code? = some "CONFLICT" := by
  intro c g
  have h : Reachable {} c := reachable_shared
  have ⟨hc, _, hd⟩ := h.isConsistent
  have hi : (Call.mk (.define "home" "DAILY NOTE" []) g).IsFresh c.tables := by decide +kernel
  have hr : c.tables.entities.any fun r => r.scope = "home" ∧
    tableName r.name.toList = tableName "DAILY NOTE".toList := by decide +kernel
  have ⟨r, hm, hr⟩ := List.any_eq_true.mp hr
  have hd := hd g "home" "DAILY NOTE" [] [] rfl (by decide) (by decide +kernel) hi
  exact ⟨hc, hd.mpr ⟨r, hm, of_decide_eq_true hr⟩⟩

end Catalog

end EntityCatalog
