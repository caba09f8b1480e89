import EntityCatalog.Proofs.Catalog.Reachable
import EntityCatalog.Proofs.Store.Scope

namespace EntityCatalog

-- A catalog of the entities and records of a scope, without any validators at hand.
def Catalog.within (c : Catalog) (s : String) : Catalog :=
  { tables := c.tables.within s, limits := c.limits }

namespace Outcome

-- The same outcome, but for what becomes of other scopes.
def within (o : Outcome) (s : String) : Outcome := { o with catalog := o.catalog.within s }

variable {c d : Catalog} {s action : String} {f : Failure} {data : Document} {o p : Outcome}

theorem failed_within (h : (c.within s).Alike d) :
    ((failed c action f).within s).Agree (failed d action f) := by
  cases f <;> exact ⟨rfl, rfl, rfl, h⟩

theorem told_within (h : (c.within s).Alike d) :
    ((told c action data).within s).Agree (told d action data) :=
  ⟨rfl, rfl, rfl, h⟩

variable (h : (o.within s).Agree p)

include h

theorem Agree.timed_within : (o.timed.within s).Agree p.timed := h.timed

theorem Agree.granted_within : (o.granted.within s).Agree p.granted := h.granted

theorem Agree.logged_within {l m : List LogEntry} : ((o.logged l).within s).Agree (p.logged m) :=
  h.logged

theorem Agree.mapAnswer_within (r : Reply → Reply) :
    (Outcome.within { o with answer := o.answer.map r } s).Agree
      { p with answer := p.answer.map r } :=
  h.mapAnswer r

theorem Agree.withSpan_within (timer : Timer) (sp : Span) :
    ((o.withSpan timer sp).within s).Agree (p.withSpan timer sp) :=
  h.withSpan timer sp

end Outcome

namespace Catalog

variable {c d : Catalog} {s name id : String} {g : Grant} {e : Entity} {fields : List Field.Source}
  {data : Value} {key : EntityKey} {fs : List Field} {o p : Outcome} {entry : LogEntry}

theorem IsSound.within (hc : c.IsSound) : (c.within s).IsSound := ⟨hc.tables.within, .empty⟩

theorem alike_within {t u : Tables} {vs ws : ValidatorCache} {limits : PageLimits}
    (h : t.within s = u) : (Catalog.within ⟨t, vs, limits⟩ s).Alike ⟨u, ws, limits⟩ :=
  ⟨h, rfl⟩

theorem requireEntity_within : (c.within s).requireEntity s name = c.requireEntity s name := by
  simp only [requireEntity, Catalog.within, Tables.entity?_within]

theorem requireRecord_within (hs : e.scope = s) :
    (c.within s).requireRecord e id = c.requireRecord e id := by
  simp only [requireRecord, Catalog.within, hs, Tables.record?_within]

theorem fetch_within (hs : e.scope = s) {q : Query} : (c.within s).fetch e q = c.fetch e q := by
  simp only [fetch, Catalog.within, hs, Tables.find_within, Tables.count_within]

theorem withValidator_within (h : (c.within s).Alike d)
    (ha : (o.within s).Agree p) :
    ((withValidator c key fs o entry).within s).Agree (withValidator d key fs p entry) := by
  unfold withValidator ValidatorCache.put
  cases Validator.generate fs
  case error f => exact ⟨rfl, ha.tookDigits, ha.tookTime, h⟩
  case ok v => exact ⟨ha.answer, ha.tookDigits, ha.tookTime, h.tables, h.limits⟩

theorem scope_of_prepare {scope : String} (h : prepare g scope name fields = .ok e) :
    e.scope = scope ∧ e.id = IdKind.definition.idOf g.digits := by
  simp only [prepare, bind, Except.bind] at h
  cases hn : cleanName name <;> simp only [hn, reduceCtorEq] at h
  case ok n =>
    cases hf : Field.readSources fields <;> simp only [hf, reduceCtorEq, Except.ok.injEq] at h
    case ok fs => exact h ▸ ⟨rfl, rfl⟩

theorem define_within (hi : (Call.mk (.define s name fields) g).IsFresh c.tables) :
    ((c.define g s name fields).within s).Agree ((c.within s).define g s name fields) := by
  unfold define
  dsimp only
  cases hp : prepare g s name fields
  case error f => exact Outcome.failed_within ⟨rfl, rfl⟩
  case ok e =>
    have ⟨hs, he⟩ := scope_of_prepare hp
    have hx : (c.within s).tables.insertEntity e = (c.tables.insertEntity e).map (·.within s) :=
      Tables.insertEntity_within hs (he ▸ hi.define)
    have hk : (c.within s).tables.clash? s e.name e.tableName =
        c.tables.clash? s e.name e.tableName := Tables.clash?_within
    simp only [hk, hx]
    split
    case h_1 => exact (Outcome.failed_within ⟨rfl, rfl⟩).granted_within
    case h_2 =>
      cases c.tables.insertEntity e
      case error f =>
        cases f <;> exact (Outcome.failed_within ⟨rfl, rfl⟩).granted_within
      case ok t =>
        exact withValidator_within ⟨rfl, rfl⟩ (Outcome.told_within ⟨rfl, rfl⟩).granted_within

theorem redefine_within (hc : c.IsSound) :
    ((c.redefine g s name fields).within s).Agree ((c.within s).redefine g s name fields) := by
  unfold redefine
  rw [requireEntity_within]
  dsimp only
  cases Field.readSources fields
  case error f => exact Outcome.failed_within ⟨rfl, rfl⟩
  case ok fs =>
    rcases hc.requireEntity_eq s name with ⟨_, hq⟩ | ⟨e, he, hq, _, _⟩
    case inl => simp only [hq]; exact (Outcome.failed_within ⟨rfl, rfl⟩).timed_within
    case inr =>
      have ⟨r, hr, ho, hs, _⟩ := hc.tables.entity?_eq_some_iff.mp he
      have hn : (c.within s).tables.recordCount e.id = c.tables.recordCount e.id :=
        ho.id ▸ hc.tables.recordCount_within hr (ho.scope.trans hs)
      have ht : (c.tables.setFields e.id fs g.now.stamp).within s =
          (c.within s).tables.setFields e.id fs g.now.stamp := Tables.setFields_within.symm
      simp only [hq, Tables.recordCount_setFields, hn]
      refine Outcome.Agree.mapAnswer_within (withValidator_within (alike_within ht) ?_) _
      exact (Outcome.told_within ⟨rfl, rfl⟩).timed_within

theorem drop_within (hc : c.IsSound) :
    ((c.drop s name).within s).Agree ((c.within s).drop s name) := by
  unfold drop
  rw [requireEntity_within]
  dsimp only
  rcases hc.requireEntity_eq s name with ⟨_, hq⟩ | ⟨e, he, hq, _, _⟩
  case inl => simp only [hq]; exact Outcome.failed_within ⟨rfl, rfl⟩
  case inr =>
    have ⟨r, hr, ho, hs, _⟩ := hc.tables.entity?_eq_some_iff.mp he
    have hn : (c.within s).tables.recordCount e.id = c.tables.recordCount e.id :=
      ho.id ▸ hc.tables.recordCount_within hr (ho.scope.trans hs)
    simp only [hq, hn]
    exact (Outcome.told_within (alike_within Tables.eraseEntity_within.symm)).logged_within

theorem entities_within : ((c.entities s).within s).Agree ((c.within s).entities s) := by
  have h : (c.within s).tables.entitiesOf s = c.tables.entitiesOf s := Tables.entitiesOf_within
  unfold entities
  rw [h]
  cases c.tables.entitiesOf s
  case error f => exact ⟨rfl, rfl, rfl, rfl, rfl⟩
  case ok es => exact Outcome.told_within ⟨rfl, rfl⟩

theorem entity_within : ((c.entity s name).within s).Agree ((c.within s).entity s name) := by
  unfold entity
  rw [requireEntity_within]
  dsimp only
  cases c.requireEntity s name
  case error f => exact Outcome.failed_within ⟨rfl, rfl⟩
  case ok e => exact Outcome.told_within ⟨rfl, rfl⟩

theorem get_within (hc : c.IsSound) :
    ((c.get s name id).within s).Agree ((c.within s).get s name id) := by
  unfold get
  rw [requireEntity_within]
  dsimp only
  rcases hc.requireEntity_eq s name with ⟨_, hq⟩ | ⟨e, _, hq, hs, _⟩
  case inl => simp only [hq, bind, Except.bind]; exact Outcome.failed_within ⟨rfl, rfl⟩
  case inr =>
    simp only [hq, bind, Except.bind, requireRecord_within hs]
    cases c.requireRecord e id
    case error f => exact Outcome.failed_within ⟨rfl, rfl⟩
    case ok r => exact Outcome.told_within ⟨rfl, rfl⟩

theorem delete_within (hc : c.IsSound) :
    ((c.delete s name id).within s).Agree ((c.within s).delete s name id) := by
  unfold delete
  rw [requireEntity_within]
  dsimp only
  rcases hc.requireEntity_eq s name with ⟨_, hq⟩ | ⟨e, _, hq, hs, _⟩
  case inl => simp only [hq, bind, Except.bind]; exact Outcome.failed_within ⟨rfl, rfl⟩
  case inr =>
    simp only [hq, bind, Except.bind, requireRecord_within hs]
    cases c.requireRecord e id
    case error f => exact Outcome.failed_within ⟨rfl, rfl⟩
    case ok r => exact Outcome.told_within ⟨Tables.eraseRecord_within.symm, rfl⟩

theorem query_within (hc : c.IsSound) {asked : QueryText} :
    (c.within s).query s name asked = c.query s name asked := by
  refine query_congr requireEntity_within rfl fun e he q => fetch_within ?_
  rcases hc.requireEntity_eq s name with ⟨_, hq⟩ | ⟨e', _, hq, hs, _⟩ <;>
    cases (requireEntity_within.symm.trans he).symm.trans hq
  exact hs

theorem listed_within {found : Except Failure (Query × List RecordRow × Nat)} :
    ((c.listed found).within s).Agree ((c.within s).listed found) := by
  unfold listed
  dsimp only
  split
  case h_1 => exact Outcome.failed_within ⟨rfl, rfl⟩
  case h_2 =>
    split
    case h_1 => exact ⟨rfl, rfl, rfl, rfl, rfl⟩
    case h_2 => exact Outcome.Agree.mapAnswer_within (Outcome.told_within ⟨rfl, rfl⟩) _

-- Both sides make one validator of the stored fields, whatever validators are at hand.
theorem IsSound.validatorOf_within (hc : c.IsSound)
    (he : c.tables.entity? s name = .ok (some e)) (hs : e.scope = s) (hn : e.name = name) :
    (∃ f l m, c.validatorOf e = (.error f, l) ∧ (c.within s).validatorOf e = (.error f, m)) ∨
      ∃ v vs ws l m, c.validatorOf e = (.ok (v, { c with validators := vs }), l) ∧
        (c.within s).validatorOf e = (.ok (v, { c.within s with validators := ws }), m) := by
  have he' : (c.within s).tables.entity? s name = .ok (some e) := Tables.entity?_within.trans he
  rcases hc.validatorOf_eq he hs hn with ⟨f, l, hg, hv⟩ | ⟨v, vs, l, hg, hv, _⟩ <;>
  rcases hc.within.validatorOf_eq he' hs hn with ⟨f', m, hg', hw⟩ | ⟨v', ws, m, hg', hw, _⟩ <;>
  rw [hg] at hg' <;> cases hg'
  case inl.inl => exact .inl ⟨f, l, m, hv, hw⟩
  case inr.inr => exact .inr ⟨v, vs, ws, l, m, hv, hw⟩

theorem create_within (hc : c.IsSound)
    (hi : (Call.mk (.create s name data) g).IsFresh c.tables) :
    ((c.create g s name data).within s).Agree ((c.within s).create g s name data) := by
  unfold create
  rw [requireEntity_within]
  dsimp only
  rcases hc.requireEntity_eq s name with ⟨_, hq⟩ | ⟨e, he, hq, hs, hn⟩
  case inl => simp only [hq]; exact Outcome.failed_within ⟨rfl, rfl⟩
  case inr =>
    have ⟨r, hr, ho, hrs, _⟩ := hc.tables.entity?_eq_some_iff.mp he
    rcases hc.validatorOf_within he hs hn with ⟨f, l, m, hv, hw⟩ | ⟨v, vs, ws, l, m, hv, hw⟩
    case inl =>
      simp only [hq, hv, hw]
      exact (Outcome.failed_within (alike_within rfl)).logged_within
    case inr =>
      simp only [hq, hv, hw]
      split
      case h_1 => exact (Outcome.failed_within (alike_within rfl)).logged_within
      case h_2 clean _ =>
        let q : RecordRow :=
          ⟨IdKind.record.idOf g.digits, e.id, s, e.name, clean, g.now.stamp, g.now.stamp⟩
        have hx : (c.within s).tables.insertRecord q =
            (c.tables.insertRecord q).map (·.within s) :=
          Tables.insertRecord_within rfl hi.create hr (ho.scope.trans hrs) ho.id
        simp only [q] at hx
        simp only [hx]
        cases c.tables.insertRecord q <;> simp only [Except.map]
        case error f =>
          exact (Outcome.failed_within (alike_within rfl)).granted_within.logged_within
        case ok t => exact (Outcome.told_within (alike_within rfl)).granted_within.logged_within

theorem update_within (hc : c.IsSound) :
    ((c.update g s name id data).within s).Agree ((c.within s).update g s name id data) := by
  unfold update
  rw [requireEntity_within]
  dsimp only
  rcases hc.requireEntity_eq s name with ⟨_, hq⟩ | ⟨e, he, hq, hs, hn⟩
  case inl => simp only [hq, bind, Except.bind]; exact Outcome.failed_within ⟨rfl, rfl⟩
  case inr =>
    simp only [hq, bind, Except.bind, requireRecord_within hs]
    cases c.requireRecord e id
    case error f => exact Outcome.failed_within ⟨rfl, rfl⟩
    case ok r =>
      rcases hc.validatorOf_within he hs hn with ⟨f, l, m, hv, hw⟩ | ⟨v, vs, ws, l, m, hv, hw⟩
      case inl => simp only [hv, hw]; exact (Outcome.failed_within (alike_within rfl)).logged_within
      case inr =>
        simp only [hv, hw]
        split
        case h_1 => exact (Outcome.failed_within (alike_within rfl)).logged_within
        case h_2 changes _ =>
          have ht : (c.tables.setData id (r.data.merge changes) g.now.stamp).within s =
            (c.within s).tables.setData id (r.data.merge changes) g.now.stamp :=
              Tables.setData_within.symm
          exact (Outcome.told_within (alike_within ht)).timed_within.logged_within

theorem run_within (hc : c.IsSound) {k : Call} (hk : k.IsFresh c.tables)
    (hs : k.request.scope = s) (t : Telemetry) :
    (((k.request.run c k.grant).run t).1.within s).Agree
        ((k.request.run (c.within s) k.grant).run t).1 ∧
      ((k.request.run c k.grant).run t).2 = ((k.request.run (c.within s) k.grant).run t).2 := by
  obtain ⟨r, g⟩ := k
  subst hs
  cases r
  case define s name fs =>
    have ha : ((c.define g s name fs).within s).Agree ((c.within s).define g s name fs) :=
      define_within hk
    exact ⟨ha, rfl⟩
  case list s name asked =>
    have hq : (c.within s).query s name asked = c.query s name asked := query_within hc
    simp only [Request.run, Request.scope, list, hq]
    exact ⟨listed_within, rfl⟩
  case entities => exact ⟨entities_within, rfl⟩
  case entity => exact ⟨entity_within, rfl⟩
  case redefine => exact ⟨redefine_within hc, rfl⟩
  case drop => exact ⟨drop_within hc, rfl⟩
  case create => exact ⟨create_within hc hk, rfl⟩
  case get => exact ⟨get_within hc, rfl⟩
  case update => exact ⟨update_within hc, rfl⟩
  case delete => exact ⟨delete_within hc, rfl⟩

theorem Effect.within_eq {c' : Catalog} {scope : String} {ev : Option Event}
    (h : c.Effect scope ev c') (hc : c.IsSound) (hs : scope ≠ s) :
    (c'.within s).Alike (c.within s) := by
  have ht := hc.tables
  cases h
  case nothing => exact ⟨rfl, rfl⟩
  case asked => exact ⟨rfl, rfl⟩
  case defined he _ _ hi => exact ⟨Tables.within_insertEntity hi (he ▸ hs), rfl⟩
  case redefined he _ => exact ⟨ht.within_setFields hs he, rfl⟩
  case dropped he => exact ⟨ht.within_eraseEntity hs he, rfl⟩
  case created hi _ => exact ⟨Tables.within_insertRecord hi hs, rfl⟩
  case changed hr _ => exact ⟨ht.within_setData hs hr, rfl⟩
  case deleted hr => exact ⟨ht.within_eraseRecord hs hr, rfl⟩

end Catalog

theorem Outcome.Agree.trans {o p q : Outcome} (h : o.Agree p) (h' : p.Agree q) : o.Agree q where
  answer     := h.answer.trans h'.answer
  tookDigits := h.tookDigits.trans h'.tookDigits
  tookTime   := h.tookTime.trans h'.tookTime
  alike      := ⟨h.alike.tables.trans h'.alike.tables, h.alike.limits.trans h'.alike.limits⟩

-- A call as it comes in: it brings its grant, its tracing and the readings of the timer by then.
structure Visit where
  call : Call
  tracing : Option Timer := none
  readings : Nat := 0

namespace Visit

variable (v : Visit) {c d : Catalog} {s : String}

def scope : String := v.call.request.scope

def outcome (c : Catalog) : Outcome := (v.call.traced v.tracing v.readings c).1

theorem catalog_outcome : (v.outcome c).catalog = (v.call.outcome c).catalog :=
  Call.catalog_traced ..

theorem outcome_within (hc : c.IsSound) (hd : d.IsSound) (ha : (c.within s).Alike d)
    (hf : v.call.IsFresh c.tables) (hs : v.scope = s) :
    ((v.outcome c).within s).Agree (v.outcome d) := by
  have hr (t : Telemetry) :
      (((v.call.request.run c v.call.grant).run t).1.within s).Agree
          ((v.call.request.run d v.call.grant).run t).1 ∧
        ((v.call.request.run c v.call.grant).run t).2 =
          ((v.call.request.run d v.call.grant).run t).2 := by
    have ⟨hw, hwt⟩ := Catalog.run_within hc hf hs t
    have ⟨hv, hvt⟩ := ha.run hc.within hd v.call t
    exact ⟨hw.trans hv, hwt.trans hvt⟩
  exact (Outcome.traced_related (R := fun o p => (o.within s).Agree p)
    (fun timer sp h => h.withSpan_within timer sp) hr _ _).1

end Visit

namespace Catalog

variable {c d : Catalog} {s : String} {visits : List Visit} {limits : PageLimits}

def serve (c : Catalog) : List Visit → List (String × Observation)
  | [] => []
  | v :: visits => (v.scope, (v.outcome c).observed) :: serve (v.outcome c).catalog visits

def served (c : Catalog) : List Visit → Catalog
  | [] => c
  | v :: visits => served (v.outcome c).catalog visits

def Grants (c : Catalog) : List Visit → Prop
  | [] => True
  | v :: visits => v.call.IsFresh c.tables ∧ Grants (v.outcome c).catalog visits

instance decidableGrants : ∀ (visits : List Visit) (c : Catalog), Decidable (c.Grants visits)
  | [], _ => .isTrue trivial
  | v :: visits, c =>
    have := decidableGrants visits (v.outcome c).catalog
    inferInstanceAs (Decidable (_ ∧ _))

theorem serve_within (hs : ∀ v ∈ visits, v.call.request.IsSound) (hg : c.Grants visits)
    (hc : c.IsSound) (hd : d.IsSound) (ha : (c.within s).Alike d) :
    (c.serve visits).filter (·.1 == s) = d.serve (visits.filter (·.scope == s)) ∧
      ((c.served visits).within s).Alike (d.served (visits.filter (·.scope == s))) := by
  induction visits generalizing c d
  case nil => exact ⟨rfl, ha⟩
  case cons v visits hi =>
    have ⟨hv, hs⟩ := List.forall_mem_cons.mp hs
    have ⟨hf, hg⟩ := hg
    have hc' : (v.outcome c).catalog.IsSound := v.catalog_outcome ▸ hc.outcome hv
    by_cases hk : v.scope = s
    case pos =>
      have ho := v.outcome_within hc hd ha hf hk
      have hd' : (v.outcome d).catalog.IsSound := v.catalog_outcome ▸ hd.outcome hv
      have ⟨hl, hr⟩ := hi hs hg hc' hd' ho.alike
      simp only [serve, served, hk, BEq.rfl, List.filter_cons_of_pos, hl]
      exact ⟨by rw [← ho.observed]; rfl, hr⟩
    case neg =>
      have he : ((v.outcome c).catalog.within s).Alike (c.within s) :=
        v.catalog_outcome ▸ (effect_of_call hc v.call hv).within_eq hc hk
      have ha' := Alike.mk (he.tables.trans ha.tables) (he.limits.trans ha.limits)
      have hk : (v.scope == s) = false := by simpa using hk
      simpa only [serve, served, List.filter_cons, hk, Bool.false_eq_true, if_false]
        using hi hs hg hc' hd ha'

-- The visits of one scope are answered as if there were no others.
theorem serve_of_scope (hs : ∀ v ∈ visits, v.call.request.IsSound)
    (hg : Grants { limits } visits) (s : String) :
    let own := visits.filter (·.scope == s)
    (serve { limits } visits).filter (·.1 == s) = serve { limits } own ∧
      (served { limits } visits).tables.within s = (served { limits } own).tables := by
  have ⟨hl, hr⟩ := serve_within (s := s) hs hg isSound_empty isSound_empty ⟨rfl, rfl⟩
  exact ⟨hl, hr.tables⟩

def crossed : List Visit :=
  let title : Field.Source := .typed "title" "string" []
  [⟨.numbered "0" (.define "home" "note" [title]), none, 0⟩,
   ⟨.numbered "1" (.define "work" "note" [title]), none, 0⟩,
   ⟨.numbered "2" (.create "work" "note" (.object [("title", .text "a")])), none, 0⟩,
   ⟨.numbered "3" (.update "home" "note" "rec_2" (.object [("title", .text "b")])), none, 0⟩,
   ⟨.numbered "4" (.delete "home" "note" "rec_2"), none, 0⟩,
   ⟨.numbered "5" (.create "home" "note" (.object [])), none, 0⟩,
   ⟨.numbered "6" (.drop "home" "note"), none, 0⟩,
   ⟨.numbered "7" (.get "work" "note" "rec_2"), none, 0⟩]

theorem serve_crossed :
    Grants {} crossed ∧
      (let own := crossed.filter (·.scope == "work")
       (serve {} crossed).filter (·.1 == "work") = serve {} own ∧
         (served {} crossed).tables.within "work" = (served {} own).tables) := by
  have hs : ∀ v ∈ crossed, v.call.request.IsSound := by
    simp only [crossed, List.forall_mem_cons, Call.request_numbered, Request.IsSound]
    simp
  have hg : Grants {} crossed := by decide +kernel
  exact ⟨hg, serve_of_scope hs hg "work"⟩

end Catalog

end EntityCatalog
