import EntityCatalog.Catalog.Request
import EntityCatalog.Proofs.Telemetry.Erasure
import EntityCatalog.Proofs.Validation.Cache

namespace EntityCatalog

-- What becomes of records, and of the fields that they were validated with.
inductive Event where
  | created (scope name id : String) (clean : Document) (at' : String)
  | changed (scope name id : String) (changes : Document) (at' : String)
  | deleted (scope name id : String)
  | redefined (scope name : String)
  | dropped (scope name : String)

namespace Outcome

variable {c : Catalog} {action : String} {f : Failure} {data : Document} {o : Outcome}
  {entries : List LogEntry}

def success? (o : Outcome) : Option Reply :=
  match o.answer with
  | .ok r => if r.ok then some r else none
  | .error _ => none

@[simp] theorem catalog_failed : (failed c action f).catalog = c := by cases f <;> rfl

@[simp] theorem catalog_told : (told c action data).catalog = c := rfl

@[simp] theorem catalog_timed : o.timed.catalog = o.catalog := rfl

@[simp] theorem catalog_granted : o.granted.catalog = o.catalog := rfl

@[simp] theorem catalog_logged : (o.logged entries).catalog = o.catalog := rfl

@[simp] theorem success?_failed : (failed c action f).success? = none := by cases f <;> rfl

@[simp] theorem success?_told :
    (told c action data).success? = some { ok := true, action, data } := rfl

@[simp] theorem success?_timed : o.timed.success? = o.success? := rfl

@[simp] theorem success?_granted : o.granted.success? = o.success? := rfl

@[simp] theorem success?_logged : (o.logged entries).success? = o.success? := rfl

theorem run_pure {t : Telemetry} : (pure o : StateM Telemetry Outcome).run t = (o, t) := rfl

theorem run_traced {name : String} {work : StateM Telemetry Outcome} {t : Telemetry} :
    (traced name work).run t =
      match t.timer? with
      | none => work.run t
      | some timer =>
        let r := work.run (t.enterRoot name)
        let u := r.2.leaveRoot t.tracer.running
        (match u.tracer.finished.getLast? with
          | none => r.1
          | some s => r.1.withSpan timer s, u) := by
  obtain ⟨_ | timer, tracer⟩ := t <;> rfl

end Outcome

structure Call where
  request : Request
  grant : Grant

def Request.scope : Request → String
  | .define scope .. | .entities scope | .entity scope _ | .redefine scope .. | .drop scope _
  | .create scope .. | .get scope .. | .list scope .. | .update scope .. | .delete scope .. => scope

namespace Call

def numbered (digits : String) (request : Request) : Call :=
  ⟨request, digits, ⟨2024, 2, 29, by decide, by decide, by decide, by decide, by decide,
    by decide⟩, 1, some 0, by decide⟩

@[simp] theorem request_numbered {digits : String} {request : Request} :
    (numbered digits request).request = request :=
  rfl

variable (k : Call) (c : Catalog)

def outcome : Outcome := ((k.request.run c k.grant).run {}).1

def validated (extent : Extent) (scope name : String) (data : Value) : Except Failure Document := do
  let e ← c.requireEntity scope name
  let v ← Validator.generate e.fields
  v.apply extent data

-- What a call does to records. A redefinition counts as soon as the fields are stored.
def event? : Option Event :=
  match k.request with
  | .create scope name data => do
    let reply ← (k.outcome c).success?
    let clean ← (validated c .whole scope name data).toOption
    match reply.data.get? "id" with
    | some (.text id) => some (.created scope name id clean k.grant.now.stamp)
    | _ => none
  | .update scope name id data => do
    let _ ← (k.outcome c).success?
    let changes ← (validated c .changes scope name data).toOption
    some (.changed scope name id changes k.grant.now.stamp)
  | .delete scope name id => (k.outcome c).success?.map fun _ => .deleted scope name id
  | .redefine scope name fields =>
    match Field.readSources fields, c.requireEntity scope name with
    | .ok _, .ok _ => some (.redefined scope name)
    | _, _ => none
  | .drop scope name => (k.outcome c).success?.map fun _ => .dropped scope name
  | _ => none

end Call

def Field.Source.typed (name type : String) (more : Document) : Field.Source :=
  .document (.object ([("name", .text name), ("type", .text type)] ++ more))

def Request.IsSound : Request → Prop
  | .define _ _ fields | .redefine _ _ fields => ∀ s ∈ fields, s.IsSound
  | _ => True

@[simp] theorem Field.Source.isSound_typed {name type : String} {more : Document} :
    (typed name type more).IsSound :=
  trivial

-- The validators after the one of an entity was to be made anew. If there is none for the new
-- fields, the one before stays.
def ValidatorCache.renew (c : ValidatorCache) (key : EntityKey) (fs : List Field) :
    ValidatorCache :=
  match Validator.generate fs with
  | .ok v => c.insert key v
  | .error _ => c

namespace Catalog

structure IsSound (c : Catalog) : Prop where
  tables     : c.tables.IsSound
  validators : c.validators.IsFaithful c.tables

-- What a request of a scope may do.
inductive Effect (c : Catalog) (scope : String) : Option Event → Catalog → Prop
  | nothing : Effect c scope none c
  | asked {vs} : vs.IsFaithful c.tables → Effect c scope none { c with validators := vs }
  | defined {e t} :
    e.scope = scope →
    (EntityRow.ofEntity e).IsNamed →
    Field.AreAccepted e.fields →
    c.tables.insertEntity e = .ok t →
    Effect c scope none
      { c with tables := t, validators := c.validators.renew ⟨scope, e.name⟩ e.fields }
  | redefined {name e fs at'} :
    c.tables.entity? scope name = .ok (some e) →
    Field.AreAccepted fs →
    Effect c scope (some (.redefined scope name))
      { c with tables := c.tables.setFields e.id fs at'
               validators := c.validators.renew ⟨scope, name⟩ fs }
  | dropped {name e} :
    c.tables.entity? scope name = .ok (some e) →
    Effect c scope (some (.dropped scope name))
      { c with tables := c.tables.eraseEntity e.id, validators := c.validators.erase ⟨scope, name⟩ }
  | created {name e v data clean id at' t vs} :
    c.tables.entity? scope name = .ok (some e) →
    Validator.generate e.fields = .ok v → v.apply .whole data = .ok clean →
    c.tables.insertRecord ⟨id, e.id, scope, name, clean, at', at'⟩ = .ok t →
    vs.IsFaithful c.tables →
    Effect c scope (some (.created scope name id clean at'))
      { c with tables := t, validators := vs }
  | changed {name e v data changes id r at' vs} :
    c.tables.entity? scope name = .ok (some e) →
    Validator.generate e.fields = .ok v → v.apply .changes data = .ok changes →
    c.tables.record? scope name id = some r →
    vs.IsFaithful c.tables →
    Effect c scope (some (.changed scope name id changes at'))
      { c with tables := c.tables.setData id (r.data.merge changes) at', validators := vs }
  | deleted {name e id r} :
    c.tables.entity? scope name = .ok (some e) →
    c.tables.record? scope name id = some r →
    Effect c scope (some (.deleted scope name id)) { c with tables := c.tables.eraseRecord id }

variable {c : Catalog} {g : Grant} {scope name id : String} {e : Entity}
  {fields : List Field.Source} {data : Value}

theorem IsSound.requireEntity_eq (hc : c.IsSound) (scope name : String) :
    (c.tables.entity? scope name = .ok none ∧
        c.requireEntity scope name = .error (.rejected (.entityNotFound scope name))) ∨
      ∃ e, c.tables.entity? scope name = .ok (some e) ∧ c.requireEntity scope name = .ok e ∧
        e.scope = scope ∧ e.name = name := by
  rcases hc.tables.entity?_eq scope name with ⟨he, _⟩ | ⟨e, he, _, _, _, hs, hn⟩
  case inl => exact .inl ⟨he, by simp [requireEntity, he, bind, Except.bind]⟩
  case inr => exact .inr ⟨e, he, by simp [requireEntity, he, bind, Except.bind], hs, hn⟩

theorem IsSound.validatorOf_eq (hc : c.IsSound) (he : c.tables.entity? scope name = .ok (some e))
    (hs : e.scope = scope) (hn : e.name = name) :
    (∃ f log, Validator.generate e.fields = .error f ∧ c.validatorOf e = (.error f, log)) ∨
      ∃ v vs log, Validator.generate e.fields = .ok v ∧
        c.validatorOf e = (.ok (v, { c with validators := vs }), log) ∧
        vs.IsFaithful c.tables := by
  have hk : ∀ v, c.validators.get? ⟨e.scope, e.name⟩ = some v → v.IsKeptFor e.fields := by
    intro v hv
    have ⟨e', he', hv⟩ := hc.validators _ v hv
    simp only [hs, hn, he, Except.ok.injEq, Option.some.injEq] at he'
    exact he' ▸ hv
  rcases ValidatorCache.getOrCreate_eq hk with ⟨f, hg, ho⟩ | ⟨v, vs, hg, ho, hv⟩
  case inl => exact .inl ⟨f, [], hg, by simp [validatorOf, ho]⟩
  case inr =>
    refine .inr ⟨v, vs, _, hg, by simp only [validatorOf, ho]; rfl, ?_⟩
    rcases hv with rfl | rfl
    case inl => exact hc.validators
    case inr =>
      subst hs hn
      exact hc.validators.insert he (Validator.isKeptFor_self (hc.tables.accepted he) hg)

def found (c : Catalog) (scope name : String) (asked : QueryText) :
    Except Failure (Query × List RecordRow × Nat) := do
  let e ← c.requireEntity scope name
  let q ← Query.parse e.fields c.limits asked
  let (rows, total) ← c.fetch e q
  return (q, rows, total)

theorem tracedParse_erases {asked : QueryText} :
    (c.tracedParse e asked).Erases (Query.parse e.fields c.limits asked) := by
  refine .span fun opened => .andThen .lift fun q => ?_
  dsimp only
  split
  case isTrue =>
    split
    case h_1 => exact .bind .note fun _ => .pure
    case h_2 => exact .pure
  case isFalse => exact .pure

theorem tracedFetch_erases {q : Query} : (c.tracedFetch e q).Erases (c.fetch e q) := by
  refine .span fun opened => .andThen .lift fun (rows, total) => ?_
  dsimp only
  split
  case isTrue => exact .bind .note fun _ => .pure
  case isFalse => exact .pure

theorem query_erases {asked : QueryText} :
    (c.query scope name asked).Erases (c.found scope name asked) := by
  refine .bind .lift fun e => .current fun s => ?_
  have hq : (do
      let q ← c.tracedParse e asked
      let (rows, total) ← c.tracedFetch e q
      return (q, rows, total)).Erases (do
        let q ← Query.parse e.fields c.limits asked
        let (rows, total) ← c.fetch e q
        return (q, rows, total)) :=
    .bind tracedParse_erases fun q => .bind tracedFetch_erases fun (rows, total) => .pure
  dsimp only
  split
  case isTrue => exact .bind .note fun _ => .bind .note fun _ => hq
  case isFalse => exact hq

theorem query_congr {d : Catalog} {asked : QueryText}
    (he : c.requireEntity scope name = d.requireEntity scope name) (hl : c.limits = d.limits)
    (hf : ∀ e, c.requireEntity scope name = .ok e → ∀ q, c.fetch e q = d.fetch e q) :
    c.query scope name asked = d.query scope name asked := by
  unfold query
  rw [← he]
  cases hr : c.requireEntity scope name
  case error => rfl
  case ok e =>
    have hp : c.tracedParse e asked = d.tracedParse e asked := by simp only [tracedParse, hl]
    have hq (q : Query) : c.tracedFetch e q = d.tracedFetch e q := by
      simp only [tracedFetch, hf e hr]
    simp only [Trace.lift_ok_bind, hp, hq]

-- A call comes to the same, wherever it is traced, and closes all spans that it opens.
theorem run_erased (c : Catalog) (k : Call) (t : Telemetry) :
    ((k.request.run c k.grant).run t).1 = k.outcome c ∧
      t.StaysIn ((k.request.run c k.grant).run t).2 := by
  obtain ⟨r, g⟩ := k
  cases r
  case list scope name asked =>
    have h : (c.query scope name asked).Erases (c.found scope name asked) := query_erases
    exact ⟨congrArg c.listed ((h.result t).trans (h.result {}).symm), h.staysIn t⟩
  all_goals exact ⟨rfl, rfl, .refl⟩

theorem outcome_list {asked : QueryText} :
    Call.outcome ⟨.list scope name asked, g⟩ c = c.listed (c.found scope name asked) :=
  congrArg c.listed (query_erases.result {})

@[simp] theorem catalog_withValidator {key : EntityKey} {fs : List Field} {o : Outcome}
    {entry : LogEntry} :
    (withValidator c key fs o entry).catalog =
      { c with validators := c.validators.renew key fs } := by
  cases hg : Validator.generate fs <;>
    simp [withValidator, ValidatorCache.put, ValidatorCache.renew, hg, bind, Except.bind]

theorem accepted_of_prepare (hs : ∀ s ∈ fields, s.IsSound)
    (h : prepare g scope name fields = .ok e) :
    (EntityRow.ofEntity e).IsNamed ∧ Field.AreAccepted e.fields ∧ e.scope = scope := by
  simp only [prepare, cleanName, bind, Except.bind] at h
  split at h
  case h_1 => cases h
  case h_2 n hn =>
    split at hn <;> cases hn
    case isFalse.refl hb =>
      cases hf : Field.readSources fields <;> simp only [hf, reduceCtorEq, Except.ok.injEq] at h
      case ok fs =>
        subst h
        exact ⟨⟨hb, String.stripped_stripped, rfl⟩, .of_readSources hs hf, rfl⟩

theorem effect_define (hs : ∀ s ∈ fields, s.IsSound) :
    c.Effect scope none (c.define g scope name fields).catalog := by
  unfold define
  dsimp only
  split
  case h_1 => simpa using .nothing
  case h_2 e hp =>
    have ⟨hn, hf, hs⟩ := accepted_of_prepare hs hp
    split
    case h_1 => simpa using .nothing
    case h_2 =>
      split
      case h_1 => simpa using .nothing
      case h_2 => simpa using .nothing
      case h_3 t hi => simpa using .defined hs hn hf hi

theorem effect_redefine (hc : c.IsSound) (hs : ∀ s ∈ fields, s.IsSound) :
    c.Effect scope (Call.event? ⟨.redefine scope name fields, g⟩ c)
      (c.redefine g scope name fields).catalog := by
  unfold redefine Call.event?
  dsimp only
  cases hr : Field.readSources fields
  case error f => simpa using .nothing
  case ok fs =>
    rcases hc.requireEntity_eq scope name with ⟨_, hq⟩ | ⟨e, he, hq, _, hn⟩
    case inl => simpa [hq] using .nothing
    case inr =>
      subst hn
      simpa [hq] using .redefined he (.of_readSources hs hr)

theorem effect_drop (hc : c.IsSound) :
    c.Effect scope (Call.event? ⟨.drop scope name, g⟩ c) (c.drop scope name).catalog := by
  simp only [Call.event?, Call.outcome, Request.run, Outcome.run_pure, drop]
  rcases hc.requireEntity_eq scope name with ⟨_, hq⟩ | ⟨e, he, hq, _, hn⟩
  case inl => simpa [hq] using .nothing
  case inr =>
    subst hn
    simpa [hq] using .dropped he

theorem effect_create (hc : c.IsSound) :
    c.Effect scope (Call.event? ⟨.create scope name data, g⟩ c)
      (c.create g scope name data).catalog := by
  simp only [Call.event?, Call.outcome, Request.run, Outcome.run_pure, create]
  rcases hc.requireEntity_eq scope name with ⟨_, hq⟩ | ⟨e, he, hq, hs, hn⟩
  case inl => simpa [hq] using .nothing
  case inr =>
    rcases hc.validatorOf_eq he hs hn with ⟨f, log, hg, hv⟩ | ⟨v, vs, log, hg, hv, hk⟩
    case inl => simpa [hq, hv] using .nothing
    case inr =>
      cases ha : v.apply .whole data
      case error f => simpa [hq, hv, ha] using .asked hk
      case ok clean =>
        have hr : Call.validated c .whole scope name data = .ok clean := by
          simp [Call.validated, hq, hg, ha, bind, Except.bind]
        cases hi : c.tables.insertRecord ⟨IdKind.record.idOf g.digits, e.id, scope, name, clean,
          g.now.stamp, g.now.stamp⟩
        case error f => simpa [hq, hv, ha, hn, hi] using .asked hk
        case ok t =>
          simpa [hq, hv, ha, hn, hi, hr, Except.toOption, RecordRow.toDocument, Document.get?]
            using .created he hg ha hi hk

theorem IsSound.requireRecord_eq (hc : c.IsSound) (id : String) (hs : e.scope = scope)
    (hn : e.name = name) :
    (c.tables.record? scope name id = none ∧
        c.requireRecord e id = .error (.rejected (.recordNotFound name id))) ∨
      ∃ r, c.tables.record? scope name id = some r ∧ c.requireRecord e id = .ok r ∧
        r.id = id ∧ r.entityName = name := by
  subst hs hn
  cases hr : c.tables.record? e.scope e.name id
  case none => exact .inl ⟨rfl, by simp [requireRecord, hr]⟩
  case some r =>
    have ⟨_, _, hn, hi⟩ := hc.tables.record?_eq_some_iff.mp hr
    exact .inr ⟨r, rfl, by simp [requireRecord, hr], hi, hn⟩

theorem effect_update (hc : c.IsSound) :
    c.Effect scope (Call.event? ⟨.update scope name id data, g⟩ c)
      (c.update g scope name id data).catalog := by
  simp only [Call.event?, Call.outcome, Request.run, Outcome.run_pure, update]
  rcases hc.requireEntity_eq scope name with ⟨_, hq⟩ | ⟨e, he, hq, hs, hn⟩
  case inl => simpa [hq, bind, Except.bind] using .nothing
  case inr =>
    rcases hc.requireRecord_eq id hs hn with ⟨_, hr⟩ | ⟨r, hf, hr, hi, hm⟩
    case inl => simpa [hq, hr, bind, Except.bind] using .nothing
    case inr =>
      rcases hc.validatorOf_eq he hs hn with ⟨f, log, hg, hv⟩ | ⟨v, vs, log, hg, hv, hk⟩
      case inl => simpa [hq, hr, hv, bind, Except.bind] using .nothing
      case inr =>
        cases ha : v.apply .changes data
        case error f => simpa [hq, hr, hv, ha, bind, Except.bind] using .asked hk
        case ok changes =>
          have hw : Call.validated c .changes scope name data = .ok changes := by
            simp [Call.validated, hq, hg, ha, bind, Except.bind]
          simpa [hq, hr, hv, ha, hw, Except.toOption, bind, Except.bind]
            using .changed he hg ha hf hk

theorem IsSound.record?_update (hc : c.IsSound) (he : c.tables.entity? scope name = .ok (some e))
    {r : RecordRow} (hr : c.tables.record? scope name id = some r) {v : Validator}
    {changes : Document} (hg : Validator.generate e.fields = .ok v)
    (ha : v.apply .changes data = .ok changes) :
    (c.update g scope name id data).catalog.tables.record? scope name id =
      some { r with data := r.data.merge changes, updatedAt := g.now.stamp } := by
  rcases hc.requireEntity_eq scope name with ⟨hn, _⟩ | ⟨e', he', hq, hs, hn⟩
  case inl => cases hn.symm.trans he
  case inr =>
    cases he'.symm.trans he
    rcases hc.requireRecord_eq id hs hn with ⟨hn, _⟩ | ⟨r', hf, hr', _⟩
    case inl => cases hn.symm.trans hr
    case inr =>
      cases hf.symm.trans hr
      rcases hc.validatorOf_eq he hs hn with ⟨f, log, hf, _⟩ | ⟨v', vs, log, hg', hv, _⟩
      case inl => cases hf.symm.trans hg
      case inr =>
        cases hg'.symm.trans hg
        simp [update, hq, hr', hv, ha, bind, Except.bind, hc.tables.record?_setData, hr]

theorem effect_delete (hc : c.IsSound) :
    c.Effect scope (Call.event? ⟨.delete scope name id, g⟩ c) (c.delete scope name id).catalog := by
  simp only [Call.event?, Call.outcome, Request.run, Outcome.run_pure, delete]
  rcases hc.requireEntity_eq scope name with ⟨_, hq⟩ | ⟨e, he, hq, hs, hn⟩
  case inl => simpa [hq, bind, Except.bind] using .nothing
  case inr =>
    rcases hc.requireRecord_eq id hs hn with ⟨_, hr⟩ | ⟨r, hf, hr, _⟩
    case inl => simpa [hq, hr, bind, Except.bind] using .nothing
    case inr => simpa [hq, hr, bind, Except.bind] using .deleted he hf

theorem catalog_entities : (c.entities scope).catalog = c := by
  unfold entities; split <;> rfl

theorem catalog_entity : (c.entity scope name).catalog = c := by
  unfold entity; dsimp only; split <;> simp

theorem catalog_get : (c.get scope name id).catalog = c := by
  unfold get; dsimp only; split <;> simp

theorem catalog_listed {found : Except Failure (Query × List RecordRow × Nat)} :
    (c.listed found).catalog = c := by
  unfold listed
  dsimp only
  split
  case h_1 => simp
  case h_2 => split <;> simp

theorem effect_of_call (hc : c.IsSound) (k : Call) (hk : k.request.IsSound) :
    c.Effect k.request.scope (k.event? c) (k.outcome c).catalog := by
  obtain ⟨r, g⟩ := k
  cases r
  case define s n fs =>
    have he : c.Effect s none (c.define g s n fs).catalog := effect_define hk
    exact he
  case entities => exact catalog_entities ▸ .nothing
  case entity => exact catalog_entity ▸ .nothing
  case redefine => exact effect_redefine hc hk
  case drop => exact effect_drop hc
  case create => exact effect_create hc
  case get => exact catalog_get ▸ .nothing
  case list => exact catalog_listed ▸ .nothing
  case update => exact effect_update hc
  case delete => exact effect_delete hc

end Catalog

-- Making the validator of one entity anew keeps the others, whose entities are as before.
theorem ValidatorCache.IsFaithful.renew {c : ValidatorCache} {t t' : Tables} {key : EntityKey}
    {fs : List Field} {e : Entity} (h : c.IsFaithful t) (hf : Field.AreAccepted fs)
    (hn : t'.entity? key.scope key.name = .ok (some e)) (he : e.fields = fs.map Field.stored)
    (ho : ∀ k e', k ≠ key → t.entity? k.scope k.name = .ok (some e') →
      t'.entity? k.scope k.name = .ok (some e')) :
    (c.renew key fs).IsFaithful t' := by
  intro k v hv
  by_cases hk : k = key
  case pos =>
    subst hk
    refine ⟨e, hn, he ▸ ?_⟩
    unfold ValidatorCache.renew at hv
    split at hv
    case h_1 w hg =>
      rw [get?_insert, if_pos rfl] at hv
      cases hv
      exact Validator.isKeptFor_of_generate hf hg
    case h_2 f hg =>
      have ⟨_, _, hv⟩ := h k v hv
      exact hv.of_not_generate hf (by simp [hg])
  case neg =>
    have hv : c.get? k = some v := by
      unfold ValidatorCache.renew at hv
      split at hv
      case h_1 => rwa [get?_insert, if_neg hk] at hv
      case h_2 => exact hv
    have ⟨e', he', hv⟩ := h k v hv
    exact ⟨e', ho k e' hk he', hv⟩

namespace Catalog

variable {c c' : Catalog} {scope : String} {ev : Option Event}

theorem Effect.isSound (h : c.Effect scope ev c') (hc : c.IsSound) : c'.IsSound := by
  have ht := hc.tables
  cases h
  case nothing => exact hc
  case asked hv => exact ⟨ht, hv⟩
  case defined e t hs _ hf hi =>
    subst hs
    refine ⟨ht.insertEntity hf hi, ?_⟩
    refine hc.validators.renew hf (ht.entity?_insertEntity hf hi) rfl fun k e' _ hk => ?_
    exact ht.entity?_insertEntity_of_some hf hi hk
  case redefined name e fs a he hf =>
    refine ⟨ht.setFields hf, ?_⟩
    refine hc.validators.renew hf (ht.entity?_setFields he hf) rfl fun k e' hne hk => ?_
    exact ht.entity?_setFields_of_ne he hf (mt EntityKey.and_eq_iff.mp hne) hk
  case dropped name e he =>
    refine ⟨ht.eraseEntity, fun k v hv => ?_⟩
    rw [ValidatorCache.get?_erase] at hv
    split at hv
    case isTrue => cases hv
    case isFalse hne =>
      have ⟨e', he', hv⟩ := hc.validators k v hv
      exact ⟨e', ht.entity?_eraseEntity_of_ne he (mt EntityKey.and_eq_iff.mp hne) he', hv⟩
  case created name e v data clean id a t vs he hg ha hi hv =>
    have ⟨r, hr, ho, hs, hn⟩ := ht.entity?_eq_some_iff.mp he
    refine ⟨ht.insertRecord hi hr ⟨ho.id, ho.scope.trans hs, ho.name.trans hn⟩, hv.congr ?_⟩
    simp [(Tables.insertRecord_eq_ok_iff.mp hi).2]
  case changed hv => exact ⟨ht.setData, hv.congr rfl⟩
  case deleted => exact ⟨ht.eraseRecord, hc.validators.congr rfl⟩

theorem isSound_empty {limits : PageLimits} : IsSound { limits } :=
  ⟨Tables.isSound_empty, .empty⟩

theorem IsSound.outcome (hc : c.IsSound) {k : Call} (hk : k.request.IsSound) :
    (k.outcome c).catalog.IsSound :=
  (effect_of_call hc k hk).isSound hc

end Catalog

end EntityCatalog
