import EntityCatalog.Proofs.Catalog.Reachable
import EntityCatalog.Proofs.Query
import EntityCatalog.Proofs.Store.Finite
import EntityCatalog.Proofs.Store.Transaction

namespace EntityCatalog

def Field.AreOversized (sources : List Field.Source) : Prop :=
  ∃ fs, readSources sources = .ok fs ∧ ¬fs.all fitsLengths

namespace Request

def Outgrows : Request → Prop
  | .define _ _ fields | .redefine _ _ fields => Field.AreOversized fields
  | _ => False

-- What ends a request without a reply.
def Breaks (c : Catalog) : Request → Prop
  | .define scope name fields =>
    name.stripped ≠ "" ∧
      (Field.readSources fields = .error .overflow ∨
        Field.AreOversized fields ∧ ∀ r ∈ c.tables.entities, r.scope = scope →
          r.tableName ≠ String.ofList (tableName name.stripped.toList))
  | .redefine scope name fields =>
    Field.readSources fields = .error .overflow ∨
      Field.AreOversized fields ∧ ∃ e, c.tables.entity? scope name = .ok (some e)
  | .create scope name data =>
    ∃ e, c.tables.entity? scope name = .ok (some e) ∧ Validator.Fails e.fields .whole data
  | .update scope name id data =>
    ∃ e, c.tables.entity? scope name = .ok (some e) ∧
      (∃ r, c.tables.record? scope name id = some r) ∧ Validator.Fails e.fields .changes data
  | .list scope name asked =>
    ∃ e, c.tables.entity? scope name = .ok (some e) ∧
      (Query.AsksBeyond e.fields asked ∨
        ∃ q cl, Query.parse e.fields c.limits asked = .ok q ∧
          Tables.clauseOf q.filter = .ok cl ∧ c.tables.IsOvertaxed scope name cl q)
  | _ => False

end Request

mutual

-- A value that can be written and read again: its integers are short enough, and it has at most so
-- many lists and objects inside of each other.
def Value.isModest (room : Nat) : Value → Bool
  | .int n => n.natAbs < Nat.pow 10 4300
  | .list vs => 0 < room && areModest (room - 1) vs
  | .object ms => 0 < room && haveModest (room - 1) ms
  | _ => true

def Value.areModest (room : Nat) : List Value → Bool
  | [] => true
  | v :: vs => v.isModest room && areModest room vs

def Value.haveModest (room : Nat) : List (String × Value) → Bool
  | [] => true
  | m :: ms => m.2.isModest room && haveModest room ms

end

def Value.isModestField (v : Value) : Bool :=
  v.isModest 100 &&
    match v with
    | .object d =>
      match Document.get? d "pattern" with
      | some (.text p) => p.toList.count '(' ≤ 100
      | _ => true
    | _ => true

def Field.Source.toValue : Field.Source → Value
  | .document v => v
  | .field f => .object f.toDocument

mutual

-- The number of tests of a member.
def Clause.tests : Clause → Nat
  | .constant _ => 0
  | .all cs | .any cs => testsOfAll cs
  | .negated c => c.tests
  | _ => 1

def Clause.testsOfAll : List Clause → Nat
  | [] => 0
  | c :: cs => c.tests + testsOfAll cs

end

def Catalog.tests (c : Catalog) (scope name : String) (asked : QueryText) : Nat :=
  match (do
    let e ← c.requireEntity scope name
    let q ← Query.parse e.fields c.limits asked
    Tables.clauseOf q.filter) with
  | .ok cl => cl.tests
  | .error _ => 0

def Request.isModest (c : Catalog) : Request → Bool
  | .define _ _ fields | .redefine _ _ fields => fields.all (·.toValue.isModestField)
  | .create _ _ data | .update _ _ _ data => data.isModest 100
  | .list scope name asked => c.tests scope name asked ≤ 8000
  | _ => true

-- An operation on a catalog has no answer if it is broken, as long as its identifier is new. Unless
-- it succeeds, the tables stay as they are; only what cannot be validated may be stored.
structure Outcome.Ends (c : Catalog) (fresh broken stored : Prop) (o : Outcome) : Prop where
  unanswered : fresh → ((∃ f, o.answer = .error f) ↔ broken)
  kept       : o.success? = none →
    o.catalog.tables = c.tables ∨ stored ∧ o.answer = .error .limitOutOfRange

namespace Outcome.Ends

variable {c d : Catalog} {fresh broken stored : Prop} {o : Outcome} {action : String} {f : Failure}
  {data : Document}

theorem failed {vs : ValidatorCache} (hb : fresh → (¬f.IsRejection ↔ broken)) :
    (Outcome.failed { c with validators := vs } action f).Ends c fresh broken stored where
  unanswered := by
    intro hf
    rw [← hb hf]
    cases f <;> simp [Outcome.failed, Failure.IsRejection]
  kept := fun _ => .inl (by rw [catalog_failed])

theorem rejected {e : CatalogError} (hb : fresh → ¬broken) :
    (Outcome.failed c action (.rejected e)).Ends c fresh broken stored :=
  failed fun hf => by simpa using hb hf

theorem told (hb : fresh → ¬broken) : (Outcome.told d action data).Ends c fresh broken stored where
  unanswered := fun hf => by simpa [Outcome.told] using hb hf
  kept       := by simp

theorem timed (h : o.Ends c fresh broken stored) : o.timed.Ends c fresh broken stored :=
  ⟨h.unanswered, h.kept⟩

theorem granted (h : o.Ends c fresh broken stored) : o.granted.Ends c fresh broken stored :=
  ⟨h.unanswered, h.kept⟩

theorem logged (h : o.Ends c fresh broken stored) {entries : List LogEntry} :
    (o.logged entries).Ends c fresh broken stored :=
  ⟨h.unanswered, h.kept⟩

theorem mapAnswer (h : o.Ends c fresh broken stored) {extend : Reply → Reply}
    {log : List LogEntry} (he : ∀ r, (extend r).ok = r.ok) :
    Ends c fresh broken stored { o with answer := o.answer.map extend, log } := by
  obtain ⟨d, answer⟩ := o
  cases answer
  case error => exact ⟨h.unanswered, h.kept⟩
  case ok r =>
    refine ⟨fun hf => by simpa [Except.map] using h.unanswered hf, fun hs => .inl ?_⟩
    have hs : r.ok = false := by simpa [success?, Except.map, he] using hs
    simpa using h.kept (by simp [success?, hs])

theorem withSpan (h : o.Ends c fresh broken stored) {timer : Timer} {s : Span} :
    (o.withSpan timer s).Ends c fresh broken stored :=
  h.mapAnswer fun _ => rfl

end Outcome.Ends

namespace Catalog

variable {c d : Catalog} {fresh broken stored : Prop} {g : Grant} {scope name id : String}
  {fields : List Field.Source} {fs : List Field} {e : Entity} {data : Value} {o : Outcome}
  {key : EntityKey} {entry : LogEntry} {f : Failure}

theorem ends_withValidator (hf : Field.AreAccepted fs) (ho : ∃ r, o.answer = .ok r ∧ r.ok)
    (hb : fresh → (¬fs.all Field.fitsLengths ↔ broken))
    (hs : ¬fs.all Field.fitsLengths → stored) :
    (withValidator d key fs o entry).Ends c fresh broken stored := by
  have ⟨r, ho, hr⟩ := ho
  have ⟨rules, _, hg⟩ := Validator.exists_generate hf
  by_cases hl : fs.all Field.fitsLengths
  case pos =>
    rw [if_pos hl] at hg
    simp only [withValidator, ValidatorCache.put, hg, bind, Except.bind]
    exact ⟨fun hf => by simpa [ho, hl] using hb hf, by simp [Outcome.success?, ho, hr]⟩
  case neg =>
    rw [if_neg hl] at hg
    simp only [withValidator, ValidatorCache.put, hg, bind, Except.bind]
    exact ⟨fun hf => by simpa [hl] using hb hf, fun _ => .inr ⟨hs hl, rfl⟩⟩

theorem ends_define (hc : c.IsSound) (hn : c.tables.IsNamed) (hs : ∀ s ∈ fields, s.IsSound) :
    (c.define g scope name fields).Ends c
      ((Call.mk (.define scope name fields) g).IsFresh c.tables)
      ((Request.define scope name fields).Breaks c)
      (Request.define scope name fields).Outgrows := by
  simp only [Request.Breaks, Request.Outgrows, Field.AreOversized]
  by_cases hb : name.stripped = ""
  case pos =>
    simp only [define, prepare, cleanName, hb, if_true, bind, Except.bind]
    exact .rejected (by simp)
  case neg =>
    cases hf : Field.readSources fields
    case error f =>
      simp only [define, prepare, cleanName, hb, if_false, hf, bind, Except.bind]
      refine .failed fun _ => ?_
      simp [Field.not_isRejection_iff_of_readSources hf, hb]
    case ok fs =>
      let e : Entity :=
        { id := IdKind.definition.idOf g.digits, scope, name := name.stripped,
          tableName := String.ofList (tableName name.stripped.toList), fields := fs,
          createdAt := g.now.stamp, updatedAt := g.now.stamp }
      have hp : prepare g scope name fields = .ok e := by
        simp [e, prepare, cleanName, hb, hf, bind, Except.bind]
      have hk : c.tables.clash? scope e.name e.tableName = none ↔ _ :=
        Tables.clash?_eq_none_iff hc.tables hn
      obtain ⟨he, ha, _⟩ := accepted_of_prepare hs hp
      simp only [define, hp, Except.ok.injEq, exists_eq_left', reduceCtorEq, false_or]
      cases hx : c.tables.clash? scope e.name e.tableName
      case some existing =>
        have hr := mt hk.mpr (by simp [hx])
        exact .granted (.rejected fun _ hb => hr hb.2.2)
      case none =>
        have hr := hk.mp hx
        cases hi : c.tables.insertEntity e
        case ok t =>
          refine ends_withValidator ha ⟨_, rfl, rfl⟩ (fun _ => ?_) id
          exact ⟨fun hl => ⟨hb, hl, hr⟩, fun hb => hb.2.1⟩
        case error f =>
          -- An entity whose identifier is new can be stored.
          have hw : ¬(Call.mk (.define scope name fields) g).IsFresh c.tables := by
            intro hf
            rw [Tables.insertEntity_eq_of_new hn he hf.define hr] at hi
            cases hi
          cases f <;> exact .granted (.failed fun hf => absurd hf hw)

theorem ends_entities (hc : c.IsSound) : (c.entities scope).Ends c fresh False stored := by
  have ⟨es, he⟩ := hc.tables.exists_entitiesOf scope
  simp only [entities, he]
  exact .told fun _ => id

theorem ends_entity (hc : c.IsSound) : (c.entity scope name).Ends c fresh False stored := by
  unfold entity
  rcases hc.requireEntity_eq scope name with ⟨_, hq⟩ | ⟨e, _, hq, _⟩
  case inl => simpa only [hq] using .rejected fun _ => id
  case inr => simpa only [hq] using .told fun _ => id

theorem ends_redefine (hc : c.IsSound) (hs : ∀ s ∈ fields, s.IsSound) :
    (c.redefine g scope name fields).Ends c fresh
      ((Request.redefine scope name fields).Breaks c)
      (Request.redefine scope name fields).Outgrows := by
  simp only [Request.Breaks, Request.Outgrows, Field.AreOversized]
  unfold redefine
  cases hf : Field.readSources fields
  case error f =>
    refine .failed fun _ => ?_
    simp [Field.not_isRejection_iff_of_readSources hf]
  case ok fs =>
    simp only [Except.ok.injEq, exists_eq_left', reduceCtorEq, false_or]
    rcases hc.requireEntity_eq scope name with ⟨he, hq⟩ | ⟨e, he, hq, _⟩
    case inl =>
      simp only [hq, he]
      exact .timed (.rejected fun _ => by simp)
    case inr =>
      simp only [hq, he]
      have ha := Field.AreAccepted.of_readSources hs hf
      exact .mapAnswer (ends_withValidator ha ⟨_, rfl, rfl⟩ (by simp) id) fun _ => rfl

theorem ends_drop (hc : c.IsSound) : (c.drop scope name).Ends c fresh False stored := by
  unfold drop
  rcases hc.requireEntity_eq scope name with ⟨_, hq⟩ | ⟨e, _, hq, _⟩
  case inl => simpa only [hq] using .rejected fun _ => id
  case inr => simpa only [hq] using .logged (.told fun _ => id)

theorem ends_create (hc : c.IsSound) :
    (c.create g scope name data).Ends c
      ((Call.mk (.create scope name data) g).IsFresh c.tables)
      ((Request.create scope name data).Breaks c) stored := by
  simp only [Request.Breaks]
  unfold create
  rcases hc.requireEntity_eq scope name with ⟨he, hq⟩ | ⟨e, he, hq, hs, hn⟩
  case inl =>
    simp only [hq, he]
    exact .rejected fun _ => by simp
  case inr =>
    have hf := hc.tables.accepted he
    simp only [hq, he, Except.ok.injEq, Option.some.injEq, exists_eq_left']
    rcases hc.validatorOf_eq he hs hn with ⟨f, log, hg, hv⟩ | ⟨v, vs, log, hg, hv, _⟩
    case inl =>
      simp only [hv]
      exact .logged (.failed fun _ => Validator.not_isRejection_iff_of_generate hf hg)
    case inr =>
      rw [Validator.fails_iff_of_generate hf hg]
      cases ha : v.apply .whole data
      case error f =>
        simp only [hv, ha]
        exact .logged (.failed fun _ => by simp)
      case ok clean =>
        simp only [hv, ha]
        cases hi : c.tables.insertRecord ⟨IdKind.record.idOf g.digits, e.id, scope, e.name, clean,
          g.now.stamp, g.now.stamp⟩
        case ok t => exact .logged (.granted (.told fun _ => by simp))
        case error f =>
          -- A record whose identifier is new can be stored.
          refine .logged (.granted (.failed fun hf => ?_))
          have ⟨r, hr, ho, _⟩ := hc.tables.entity?_eq_some_iff.mp he
          rw [Tables.insertRecord_eq_ok_iff.mpr ⟨⟨hf.create, r, hr, ho.id⟩, rfl⟩] at hi
          cases hi

theorem IsSound.requireRecord_or_rejected (hc : c.IsSound) (scope name id : String) :
    (∃ err, (do c.requireRecord (← c.requireEntity scope name) id) = .error (.rejected err)) ∨
      ∃ r, (do c.requireRecord (← c.requireEntity scope name) id) = .ok r := by
  rcases hc.requireEntity_eq scope name with ⟨_, hq⟩ | ⟨e, _, hq, hs, hn⟩
  case inl =>
    simp only [hq, bind, Except.bind]
    exact .inl ⟨_, rfl⟩
  case inr =>
    simp only [hq, bind, Except.bind]
    rcases hc.requireRecord_eq id hs hn with ⟨_, hr⟩ | ⟨r, _, hr, _⟩
    case inl => exact .inl ⟨_, hr⟩
    case inr => exact .inr ⟨r, hr⟩

theorem ends_get (hc : c.IsSound) : (c.get scope name id).Ends c fresh False stored := by
  unfold get
  rcases hc.requireRecord_or_rejected scope name id with ⟨err, hr⟩ | ⟨r, hr⟩
  case inl => simpa only [hr] using .rejected fun _ => False.elim
  case inr => simpa only [hr] using .told fun _ => False.elim

theorem ends_delete (hc : c.IsSound) : (c.delete scope name id).Ends c fresh False stored := by
  unfold delete
  rcases hc.requireRecord_or_rejected scope name id with ⟨err, hr⟩ | ⟨r, hr⟩
  case inl => simpa only [hr] using .rejected fun _ => False.elim
  case inr => simpa only [hr] using .told fun _ => False.elim

theorem ends_update (hc : c.IsSound) :
    (c.update g scope name id data).Ends c fresh
      ((Request.update scope name id data).Breaks c) stored := by
  simp only [Request.Breaks]
  unfold update
  rcases hc.requireEntity_eq scope name with ⟨he, hq⟩ | ⟨e, he, hq, hs, hn⟩
  case inl =>
    simp only [hq, he, bind, Except.bind]
    exact .rejected fun _ => by simp
  case inr =>
    have hf := hc.tables.accepted he
    simp only [hq, he, Except.ok.injEq, Option.some.injEq, bind, Except.bind]
    rcases hc.requireRecord_eq id hs hn with ⟨hd, hr⟩ | ⟨r, hd, hr, _⟩
    case inl =>
      simp only [hr, hd]
      exact .rejected fun _ => by simp
    case inr =>
      simp only [hr, hd, Option.some.injEq, exists_eq', exists_eq_left', true_and]
      rcases hc.validatorOf_eq he hs hn with ⟨f, log, hg, hv⟩ | ⟨v, vs, log, hg, hv, _⟩
      case inl =>
        simp only [hv]
        exact .logged (.failed fun _ => Validator.not_isRejection_iff_of_generate hf hg)
      case inr =>
        simp only [hv, Validator.fails_iff_of_generate hf hg]
        cases ha : v.apply .changes data
        case error f => exact .logged (.failed fun _ => by simp)
        case ok changes => exact .logged (.timed (.told fun _ => by simp))

theorem fetch_eq {q : Query} {cl : Clause} (hc : Tables.clauseOf q.filter = .ok cl) :
    c.fetch e q =
      let rows := c.tables.selection e.scope e.name cl
      if cl.isTooHigh then .error .unreadable
      else if !q.page.all Tables.canPage then .error .overflow
      else if ∃ r ∈ c.tables.recordsOf e.scope e.name, cl.Stumbles r.data false then
        .error .unreadable
      else if Tables.canSort rows q.sort then
        .ok (Tables.pageOf q.page (rows.mergeSort (RecordRow.inOrder q.sort)), rows.length)
      else .error .unreadable := by
  have hp := Tables.prepare_of_clauseOf hc
  by_cases hh : cl.isTooHigh
  case pos => simp only [fetch, Tables.find, hp, if_pos hh, bind, Except.bind]
  case neg =>
    rw [if_neg hh] at hp
    rw [fetch, Tables.find_eq hp, Tables.count_eq hp, if_neg hh]
    by_cases hp : q.page.all Tables.canPage
    case neg => simp [hp, bind, Except.bind]
    by_cases hr : ∃ r ∈ c.tables.recordsOf e.scope e.name, cl.Stumbles r.data false
    case pos => simp only [hp, if_pos hr, bind, Except.bind]; rfl
    by_cases hs : Tables.canSort (c.tables.selection e.scope e.name cl) q.sort
    case neg => simp only [hp, if_neg hr, if_neg hs, bind, Except.bind]; rfl
    cases hq : q.page
    case none => simp [hr, hs, Tables.pageOf, bind, Except.bind]
    case some p =>
      rw [hq] at hp
      simp [hp, hr, hs, bind, Except.bind]

theorem ends_listed_error (hb : fresh → (¬f.IsRejection ↔ broken)) :
    (c.listed (.error f)).Ends c fresh broken stored := by
  unfold listed
  exact .failed hb

theorem ends_listed_of_query (hf : c.tables.IsFinite) {asked : QueryText} {q : Query} {cl : Clause}
    (he : c.requireEntity scope name = .ok e) (hq : Query.parse e.fields c.limits asked = .ok q)
    (hc : Tables.clauseOf q.filter = .ok cl) :
    (c.listed (c.found scope name asked)).Ends c fresh
      (c.tables.IsOvertaxed e.scope e.name cl q) stored := by
  have hr : c.found scope name asked = (c.fetch e q).map (q, ·) := by
    simp only [found, he, hq, bind, Except.bind]
    cases c.fetch e q <;> rfl
  rw [hr, fetch_eq hc, Tables.isOvertaxed_iff hf]
  dsimp only
  split_ifs with hh hp hr hs
  case pos => exact ends_listed_error fun _ => by simp [hh]
  case pos => exact ends_listed_error fun _ => by simp_all
  case pos => exact ends_listed_error fun _ => by simp [hr]
  case neg => exact ends_listed_error fun _ => by simp [hs]
  case pos =>
    rw [Except.map, listed]
    dsimp only
    cases hi : Listing.pageInfo (c.tables.selection e.scope e.name cl).length q.page
    case error fault => exact ⟨fun _ => by simp, fun _ => .inl rfl⟩
    case ok info =>
      dsimp only
      refine .mapAnswer (.told fun _ => ?_) fun _ => rfl
      simp_all

theorem ends_listed (hc : c.IsSound) (hf : c.tables.IsFinite) {asked : QueryText} :
    (c.listed (c.found scope name asked)).Ends c fresh
      ((Request.list scope name asked).Breaks c) stored := by
  simp only [Request.Breaks]
  rcases hc.requireEntity_eq scope name with ⟨he, hq⟩ | ⟨e, he, hq, hs, hn⟩
  case inl =>
    have hf : c.found scope name asked = .error (.rejected (.entityNotFound scope name)) := by
      simp [found, hq, bind, Except.bind]
    exact hf ▸ ends_listed_error fun _ => by simp [he]
  case inr =>
    subst hs hn
    simp only [he, Except.ok.injEq, Option.some.injEq, exists_eq_left']
    rcases Query.parse_eq e.fields c.limits asked with
      ⟨ha, f, hr, hp⟩ | ⟨ha, ⟨f, hr, hp⟩ | ⟨q, hp, ht⟩⟩
    case inl =>
      have hf : c.found e.scope e.name asked = .error f := by
        simp [found, hq, hp, bind, Except.bind]
      exact hf ▸ ends_listed_error fun _ => by simp [hr, ha]
    case inr.inl =>
      have hf : c.found e.scope e.name asked = .error f := by
        simp [found, hq, hp, bind, Except.bind]
      exact hf ▸ ends_listed_error fun _ => by simp [hr, ha, hp]
    case inr.inr =>
      have ⟨cl, hl⟩ := Predicate.exists_clauseOf ht
      simpa [hp, ha, hl] using ends_listed_of_query hf hq hp hl

theorem ends_of_call (hc : c.IsSound) (hn : c.tables.IsNamed) (hf : c.tables.IsFinite) (k : Call)
    (hk : k.request.IsSound) :
    (k.outcome c).Ends c (k.IsFresh c.tables) (k.request.Breaks c) k.request.Outgrows := by
  obtain ⟨r, g⟩ := k
  cases r
  case define => exact ends_define hc hn hk
  case entities => exact ends_entities hc
  case entity => exact ends_entity hc
  case redefine => exact ends_redefine hc hk
  case drop => exact ends_drop hc
  case create => exact ends_create hc
  case get => exact ends_get hc
  case list => exact outcome_list ▸ ends_listed hc hf
  case update => exact ends_update hc
  case delete => exact ends_delete hc

theorem Effect.isFinite {ev : Option Event} (h : c.Effect scope ev d) (hc : c.tables.IsFinite) :
    d.tables.IsFinite := by
  cases h
  case nothing => exact hc
  case asked => exact hc
  case defined hi => rw [(Tables.insertEntity_eq_ok_iff.mp hi).2]; exact hc
  case redefined => exact hc
  case dropped => exact fun q hq => hc q (List.mem_of_mem_filter hq)
  case created ha hi _ => exact hc.insertRecord (Validator.allFinite_of_apply ha) hi
  case changed ha hr _ =>
    have hq := hc _ (List.mem_of_mem_filter (List.mem_of_find?_eq_some hr))
    exact hc.setData (Document.allFinite_merge hq (Validator.allFinite_of_apply ha))
  case deleted => exact fun q hq => hc q (List.mem_of_mem_filter hq)

variable {limits : PageLimits} {k : Call} {tracing : Option Timer} {readings : Nat}

namespace Reachable

theorem isFinite (h : Reachable limits c) : c.tables.IsFinite := by
  induction h
  case empty => exact nofun
  case call hr hk hc => exact (effect_of_call hr.isSound _ hk).isFinite hc
  case upkeep hr hu hc => exact (Upkeep.isSound_alike hr.isSound hu).2.tables ▸ hc

theorem ends (h : Reachable limits c) (hk : k.request.IsSound) :
    (k.traced tracing readings c).1.Ends c (k.IsFresh c.tables) (k.request.Breaks c)
      k.request.Outgrows := by
  have ho := ends_of_call h.isSound h.isNamed h.isFinite k hk
  rcases k.traced_eq tracing readings c with he | ⟨timer, s, _, he⟩
  case inl => exact he ▸ ho
  case inr => exact he ▸ ho.withSpan

end Reachable

-- What does not succeed changes no table, unless fields were stored that nothing can validate;
-- validators are of entities that are there in any case. A transaction that is undone changes
-- nothing at all.
theorem Reachable.tables_eq_of_failure (h : Reachable limits c) (hk : k.request.IsSound)
    (hs : (k.traced tracing readings c).1.success? = none) :
    let o := (k.traced tracing readings c).1
    (o.catalog.tables = c.tables ∨ k.request.Outgrows ∧ o.answer = .error .limitOutOfRange) ∧
      (∀ entry ∈ o.catalog.validators.entries, ∃ r ∈ o.catalog.tables.entities,
        r.scope = entry.1.scope ∧ r.name = entry.1.name) ∧
      ∀ (α : Type) (t : Tables) (steps : List (Work α)) (giveUp : Bool),
        (giveUp ∨ ∃ f, Work.inTurn steps t = .error f) → (t.transact steps giveUp).2 = t := by
  have hn := h.call hk
  have hv := (hn.isSound.consistent hn.isNamed).cached
  rw [← Call.catalog_traced tracing readings] at hv
  exact ⟨(h.ends hk).kept hs, hv, fun _ _ _ _ hu => Tables.transact_of_undone hu⟩

theorem tables_eq_shared :
    let c : Catalog := after {} shared
    let k := Call.numbered "5" (.update "work" "daily note" "rec_2" (.object [("title", .int 1)]))
    let steps : List (Work Unit) :=
      [.writing fun t => .ok (t.eraseEntity "def_1"), .writing fun _ => .error .brokenIntegrity]
    (k.traced none 0 c).1.success? = none ∧ (k.traced none 0 c).1.catalog.tables = c.tables ∧
      (c.tables.transact steps false).2 = c.tables := by
  intro c k steps
  have hs : (k.traced none 0 c).1.success?.isNone := by decide +kernel
  have hs := Option.isNone_iff_eq_none.mp hs
  have h : Reachable {} c := reachable_shared
  have ⟨ht, _, hu⟩ := h.tables_eq_of_failure (k := k) trivial hs
  exact ⟨hs, ht.resolve_right fun h => h.1, hu Unit c.tables steps false (.inr ⟨_, rfl⟩)⟩

def oversized : Call :=
  .numbered "0" (.define "home" "Note"
    [.typed "title" "string" [("maxLength", .int (Int.pow 2 64))]])

theorem tables_ne_oversized :
    let o := (oversized.traced none 0 {}).1
    Reachable {} {} ∧ oversized.request.IsSound ∧ o.success? = none ∧
      o.catalog.tables ≠ ({} : Catalog).tables := by
  intro o
  have hs : o.success?.isNone := by decide +kernel
  have hl : o.catalog.tables.entities.length = 1 := by decide +kernel
  refine ⟨.empty, ?_, Option.isNone_iff_eq_none.mp hs, fun ht => ?_⟩
  case refine_1 => simp [oversized, Request.IsSound]
  case refine_2 => rw [ht] at hl; cases hl

end Catalog

end EntityCatalog
