import EntityCatalog.Proofs.Catalog.Effect

namespace EntityCatalog

-- Catalogs that differ in their validators, if at all.
structure Catalog.Alike (c d : Catalog) : Prop where
  tables : c.tables = d.tables
  limits : c.limits = d.limits

-- Outcomes that differ in the validators of their catalogs and in what is logged, if at all.
structure Outcome.Agree (o p : Outcome) : Prop where
  answer     : o.answer = p.answer
  tookDigits : o.tookDigits = p.tookDigits
  tookTime   : o.tookTime = p.tookTime
  alike      : o.catalog.Alike p.catalog

namespace Outcome.Agree

variable {o p : Outcome} {c d : Catalog} {action : String} {f : Failure} {data : Document}

theorem failed (h : c.Alike d) : (Outcome.failed c action f).Agree (Outcome.failed d action f) := by
  cases f <;> exact ⟨rfl, rfl, rfl, h⟩

theorem told (h : c.Alike d) : (Outcome.told c action data).Agree (Outcome.told d action data) :=
  ⟨rfl, rfl, rfl, h⟩

theorem timed (h : o.Agree p) : o.timed.Agree p.timed :=
  ⟨h.answer, h.tookDigits, rfl, h.alike⟩

theorem granted (h : o.Agree p) : o.granted.Agree p.granted :=
  ⟨h.answer, rfl, rfl, h.alike⟩

theorem logged {l m : List LogEntry} (h : o.Agree p) : (o.logged l).Agree (p.logged m) :=
  ⟨h.answer, h.tookDigits, h.tookTime, h.alike⟩

theorem mapAnswer (h : o.Agree p) (r : Reply → Reply) :
    Outcome.Agree { o with answer := o.answer.map r } { p with answer := p.answer.map r } :=
  ⟨by rw [h.answer], h.tookDigits, h.tookTime, h.alike⟩

theorem withSpan (h : o.Agree p) (timer : Timer) (s : Span) :
    (o.withSpan timer s).Agree (p.withSpan timer s) :=
  ⟨congrArg (Except.map _) h.answer, h.tookDigits, h.tookTime, h.alike⟩

end Outcome.Agree

theorem Outcome.traced_related {R : Outcome → Outcome → Prop}
    {work work' : StateM Telemetry Outcome}
    (hs : ∀ {o p} timer s, R o p → R (o.withSpan timer s) (p.withSpan timer s))
    (h : ∀ t, R (work.run t).1 (work'.run t).1 ∧ (work.run t).2 = (work'.run t).2)
    (name : String) (t : Telemetry) :
    R ((traced name work).run t).1 ((traced name work').run t).1 ∧
      ((traced name work).run t).2 = ((traced name work').run t).2 := by
  simp only [run_traced]
  split
  case h_1 => exact h t
  case h_2 timer _ =>
    have ⟨hr, ht⟩ := h (t.enterRoot name)
    rw [ht]
    refine ⟨?_, rfl⟩
    dsimp only
    split
    case h_1 => exact hr
    case h_2 => exact hs timer _ hr

namespace Catalog

variable {c d : Catalog} {g : Grant} {scope name id : String} {fields : List Field.Source}
  {data : Value} {key : EntityKey} {fs : List Field} {o p : Outcome} {entry : LogEntry}

theorem Alike.changed (h : c.Alike d) {t : Tables} {vs ws : ValidatorCache} :
    Alike { c with tables := t, validators := vs } { d with tables := t, validators := ws } :=
  ⟨rfl, h.limits⟩

theorem Alike.requireEntity (h : c.Alike d) :
    c.requireEntity scope name = d.requireEntity scope name := by
  simp only [Catalog.requireEntity, h.tables]

theorem Alike.requireRecord (h : c.Alike d) {e : Entity} :
    c.requireRecord e id = d.requireRecord e id := by
  simp only [Catalog.requireRecord, h.tables]

theorem Alike.withValidator (h : c.Alike d) (ha : o.Agree p) :
    (withValidator c key fs o entry).Agree (withValidator d key fs p entry) := by
  unfold Catalog.withValidator ValidatorCache.put
  cases Validator.generate fs
  case error f => exact ⟨rfl, ha.tookDigits, ha.tookTime, h⟩
  case ok v => exact ⟨ha.answer, ha.tookDigits, ha.tookTime, h.tables, h.limits⟩

theorem Alike.define (h : c.Alike d) :
    (c.define g scope name fields).Agree (d.define g scope name fields) := by
  unfold Catalog.define
  rw [h.tables]
  dsimp only
  split
  case h_1 => exact .failed h
  case h_2 e _ =>
    split
    case h_1 => exact (Outcome.Agree.failed h).granted
    case h_2 =>
      split
      case h_1 => exact (Outcome.Agree.failed h).granted
      case h_2 => exact (Outcome.Agree.failed h).granted
      case h_3 => exact h.changed.withValidator (Outcome.Agree.told h).granted

theorem Alike.redefine (h : c.Alike d) :
    (c.redefine g scope name fields).Agree (d.redefine g scope name fields) := by
  unfold Catalog.redefine
  rw [h.requireEntity, h.tables]
  dsimp only
  split
  case h_1 => exact .failed h
  case h_2 fs _ =>
    split
    case h_1 => exact (Outcome.Agree.failed h).timed
    case h_2 => exact (h.changed.withValidator (Outcome.Agree.told h).timed).mapAnswer _

theorem Alike.drop (h : c.Alike d) : (c.drop scope name).Agree (d.drop scope name) := by
  unfold Catalog.drop
  rw [h.requireEntity, h.tables]
  dsimp only
  split
  case h_1 => exact .failed h
  case h_2 => exact (Outcome.Agree.told h.changed).logged

theorem Alike.entities (h : c.Alike d) : (c.entities scope).Agree (d.entities scope) := by
  unfold Catalog.entities
  rw [h.tables]
  split
  case h_1 => exact ⟨rfl, rfl, rfl, h⟩
  case h_2 => exact .told h

theorem Alike.entity (h : c.Alike d) : (c.entity scope name).Agree (d.entity scope name) := by
  unfold Catalog.entity
  rw [h.requireEntity]
  dsimp only
  split
  case h_1 => exact .failed h
  case h_2 => exact .told h

theorem Alike.get (h : c.Alike d) : (c.get scope name id).Agree (d.get scope name id) := by
  unfold Catalog.get
  simp only [h.requireEntity, h.requireRecord]
  split
  case h_1 => exact .failed h
  case h_2 => exact .told h

theorem Alike.query (h : c.Alike d) {asked : QueryText} :
    c.query scope name asked = d.query scope name asked :=
  query_congr h.requireEntity h.limits fun e _ q => by simp only [fetch, h.tables]

theorem Alike.listed (h : c.Alike d) {found : Except Failure (Query × List RecordRow × Nat)} :
    (c.listed found).Agree (d.listed found) := by
  unfold Catalog.listed
  dsimp only
  split
  case h_1 => exact .failed h
  case h_2 =>
    split
    case h_1 => exact ⟨rfl, rfl, rfl, h⟩
    case h_2 => exact (Outcome.Agree.told h).mapAnswer _

theorem Alike.delete (h : c.Alike d) :
    (c.delete scope name id).Agree (d.delete scope name id) := by
  unfold Catalog.delete
  simp only [h.requireEntity, h.requireRecord, h.tables]
  split
  case h_1 => exact .failed h
  case h_2 => exact .told h.changed

-- Where a validator is asked for, those that are kept have to be faithful on both sides.

theorem Alike.validatorOf (h : c.Alike d) (hc : c.IsSound) (hd : d.IsSound) {e : Entity}
    (he : d.tables.entity? scope name = .ok (some e)) (hs : e.scope = scope) (hn : e.name = name) :
    (∃ f l m, c.validatorOf e = (.error f, l) ∧ d.validatorOf e = (.error f, m)) ∨
      ∃ v vs ws l m, c.validatorOf e = (.ok (v, { c with validators := vs }), l) ∧
        d.validatorOf e = (.ok (v, { d with validators := ws }), m) := by
  rcases hc.validatorOf_eq (h.tables ▸ he) hs hn with ⟨f, l, hg, hv⟩ | ⟨v, vs, l, hg, hv, _⟩ <;>
  rcases hd.validatorOf_eq he hs hn with ⟨f', m, hg', hw⟩ | ⟨v', ws, m, hg', hw, _⟩ <;>
  rw [hg] at hg' <;> cases hg'
  case inl.inl => exact .inl ⟨f, l, m, hv, hw⟩
  case inr.inr => exact .inr ⟨v, vs, ws, l, m, hv, hw⟩

theorem Alike.create (h : c.Alike d) (hc : c.IsSound) (hd : d.IsSound) :
    (c.create g scope name data).Agree (d.create g scope name data) := by
  unfold Catalog.create
  rw [h.requireEntity]
  dsimp only
  rcases hd.requireEntity_eq scope name with ⟨_, hq⟩ | ⟨e, he, hq, hs, hn⟩
  case inl => simpa only [hq] using .failed h
  case inr =>
    rcases h.validatorOf hc hd he hs hn with ⟨f, l, m, hv, hw⟩ | ⟨v, vs, ws, l, m, hv, hw⟩
    case inl => simpa only [hq, hv, hw] using (Outcome.Agree.failed h).logged
    case inr =>
      simp only [hq, hv, hw, h.tables]
      split
      case h_1 => exact (Outcome.Agree.failed h.changed).logged
      case h_2 =>
        split
        case h_1 => exact (Outcome.Agree.failed h.changed).granted.logged
        case h_2 => exact (Outcome.Agree.told h.changed).granted.logged

theorem Alike.update (h : c.Alike d) (hc : c.IsSound) (hd : d.IsSound) :
    (c.update g scope name id data).Agree (d.update g scope name id data) := by
  unfold Catalog.update
  simp only [h.requireEntity, h.requireRecord]
  rcases hd.requireEntity_eq scope name with ⟨_, hq⟩ | ⟨e, he, hq, hs, hn⟩
  case inl => simpa only [hq, bind, Except.bind] using .failed h
  case inr =>
    rcases hd.requireRecord_eq id hs hn with ⟨_, hr⟩ | ⟨r, _, hr, _⟩
    case inl => simpa only [hq, hr, bind, Except.bind] using .failed h
    case inr =>
      rcases h.validatorOf hc hd he hs hn with ⟨f, l, m, hv, hw⟩ | ⟨v, vs, ws, l, m, hv, hw⟩
      case inl =>
        simpa only [hq, hr, hv, hw, bind, Except.bind] using (Outcome.Agree.failed h).logged
      case inr =>
        simp only [hq, hr, hv, hw, h.tables, bind, Except.bind]
        split
        case h_1 => exact (Outcome.Agree.failed h.changed).logged
        case h_2 => exact (Outcome.Agree.told h.changed).timed.logged

theorem Alike.run (h : c.Alike d) (hc : c.IsSound) (hd : d.IsSound) (k : Call) (t : Telemetry) :
    ((k.request.run c k.grant).run t).1.Agree ((k.request.run d k.grant).run t).1 ∧
      ((k.request.run c k.grant).run t).2 = ((k.request.run d k.grant).run t).2 := by
  obtain ⟨r, g⟩ := k
  cases r
  case define s n fs =>
    have ha : (c.define g s n fs).Agree (d.define g s n fs) := h.define
    exact ⟨ha, rfl⟩
  case list s n asked =>
    have hq : c.query s n asked = d.query s n asked := h.query
    simp only [Request.run, Catalog.list, hq]
    exact ⟨h.listed, rfl⟩
  case entities => exact ⟨h.entities, rfl⟩
  case entity => exact ⟨h.entity, rfl⟩
  case redefine => exact ⟨h.redefine, rfl⟩
  case drop => exact ⟨h.drop, rfl⟩
  case create => exact ⟨h.create hc hd, rfl⟩
  case get => exact ⟨h.get, rfl⟩
  case update => exact ⟨h.update hc hd, rfl⟩
  case delete => exact ⟨h.delete, rfl⟩

theorem alike_warm : c.warm.1.Alike c := by
  unfold warm
  split <;> exact ⟨rfl, rfl⟩

theorem IsSound.warm (hc : c.IsSound) : c.warm.1.IsSound := by
  unfold Catalog.warm
  split
  case h_1 => exact hc
  case h_2 es he =>
    refine ⟨hc.tables, ValidatorCache.IsFaithful.empty.warm hc.tables fun e hm => ?_⟩
    exact hc.tables.entity?_of_allEntities he hm

theorem eq_warm_of_opened {t : Tables} {limits : PageLimits} {log : List LogEntry}
    (h : opened t limits = .ok (c, log)) : c = ({ tables := t, limits } : Catalog).warm.1 := by
  unfold opened at h
  split at h <;> cases h
  case h_2 hw => rw [hw]

end Catalog

inductive Upkeep where
  | cool
  | warm
  | reopen

namespace Upkeep

variable {c c' d : Catalog} {u : Upkeep}

def run (c : Catalog) : Upkeep → Except Failure Catalog
  | cool => .ok c.cool
  | warm => .ok c.warm.1
  | reopen => (Catalog.opened c.tables c.limits).map (·.1)

theorem isSound_alike (hc : c.IsSound) (h : u.run c = .ok c') : c'.IsSound ∧ c'.Alike c := by
  cases u
  case cool => cases h; exact ⟨⟨hc.tables, .empty⟩, rfl, rfl⟩
  case warm => cases h; exact ⟨hc.warm, Catalog.alike_warm⟩
  case reopen =>
    have hs : ({ tables := c.tables, limits := c.limits } : Catalog).IsSound := ⟨hc.tables, .empty⟩
    have ha : Catalog.Alike (Catalog.warm { tables := c.tables, limits := c.limits }).1
      { tables := c.tables, limits := c.limits } := Catalog.alike_warm
    cases ho : Catalog.opened c.tables c.limits <;>
      simp only [run, ho, Except.map, Except.ok.injEq, reduceCtorEq] at h
    case ok p =>
      subst h
      rw [Catalog.eq_warm_of_opened ho]
      exact ⟨hs.warm, ha.tables, ha.limits⟩

end Upkeep

inductive Step where
  | call (k : Call)
  | upkeep (u : Upkeep)

def Step.call? : Step → Option Call
  | .call k => some k
  | .upkeep _ => none

-- What a caller gets: the answer, and what was taken from the world for it.
structure Observation where
  answer : Except Failure Reply
  tookDigits : Bool
  tookTime : Bool

def Outcome.observed (o : Outcome) : Observation := ⟨o.answer, o.tookDigits, o.tookTime⟩

theorem Outcome.Agree.observed {o p : Outcome} (h : o.Agree p) : o.observed = p.observed := by
  simp only [Outcome.observed, h.answer, h.tookDigits, h.tookTime]

namespace Call

variable (tracing : Option Timer) (readings : Nat) {c d : Catalog} {k : Call}

def traced (c : Catalog) (k : Call) : Outcome × Nat :=
  k.request.answer tracing readings c k.grant

theorem traced_eq (c : Catalog) (k : Call) : (k.traced tracing readings c).1 = k.outcome c ∨
    ∃ timer s, tracing = some timer ∧
      (k.traced tracing readings c).1 = (k.outcome c).withSpan timer s := by
  have hr (t : Telemetry) : ((k.request.run c k.grant).run t).1 = k.outcome c :=
    (Catalog.run_erased c k t).1
  simp only [traced, Request.answer, Request.traced, Outcome.run_traced]
  cases tracing
  case none => exact .inl (hr _)
  case some timer =>
    dsimp only
    split
    case h_1 => exact .inl (hr _)
    case h_2 s _ => exact .inr ⟨timer, s, rfl, by rw [hr]⟩

theorem catalog_traced : (k.traced tracing readings c).1.catalog = (k.outcome c).catalog := by
  rcases k.traced_eq tracing readings c with h | ⟨_, _, _, h⟩
  case inl => rw [h]
  case inr => rw [h, Outcome.withSpan]

theorem traced_agree (h : c.Alike d) (hc : c.IsSound) (hd : d.IsSound) :
    (k.traced tracing readings c).1.Agree (k.traced tracing readings d).1 ∧
      (k.traced tracing readings c).2 = (k.traced tracing readings d).2 := by
  have ⟨ha, ht⟩ := Outcome.traced_related (fun timer s h => h.withSpan timer s) (h.run hc hd k)
    k.request.spanName { timer? := tracing, tracer := { readings } }
  exact ⟨ha, congrArg (·.tracer.readings) ht⟩

end Call

namespace Catalog

variable (tracing : Option Timer)

def observe (readings : Nat) (c : Catalog) : List Call → List Observation
  | [] => []
  | k :: ks =>
    let (o, readings) := k.traced tracing readings c
    o.observed :: observe readings o.catalog ks

def play (readings : Nat) (c : Catalog) : List Step → Except Failure (List Observation)
  | [] => .ok []
  | .upkeep u :: steps => do play readings (← u.run c) steps
  | .call k :: steps => do
    let (o, readings) := k.traced tracing readings c
    .ok (o.observed :: (← play readings o.catalog steps))

theorem play_eq {c d : Catalog} {readings : Nat} {steps : List Step} {seen : List Observation}
    (hs : ∀ k ∈ steps.filterMap Step.call?, k.request.IsSound)
    (hc : c.IsSound) (hd : d.IsSound) (h : c.Alike d)
    (hp : c.play tracing readings steps = .ok seen) :
    seen = d.observe tracing readings (steps.filterMap Step.call?) := by
  induction steps generalizing c d readings seen
  case nil => cases hp; rfl
  case cons s steps hi =>
    cases s
    case upkeep u =>
      cases hu : u.run c <;> simp only [play, hu, bind, Except.bind] at hp <;> try contradiction
      case ok c' =>
        have ⟨hc', ha⟩ := Upkeep.isSound_alike hc hu
        exact hi hs hc' hd ⟨ha.tables.trans h.tables, ha.limits.trans h.limits⟩ hp
    case call k =>
      have hs : ∀ k' ∈ k :: steps.filterMap Step.call?, k'.request.IsSound := hs
      have ⟨hk, hs⟩ := List.forall_mem_cons.mp hs
      have ⟨ha, hn⟩ := Call.traced_agree (k := k) tracing readings h hc hd
      have hc' : (k.traced tracing readings c).1.catalog.IsSound := by
        rw [Call.catalog_traced]; exact hc.outcome hk
      have hd' : (k.traced tracing readings d).1.catalog.IsSound := by
        rw [Call.catalog_traced]; exact hd.outcome hk
      simp only [play, bind, Except.bind] at hp
      split at hp <;> cases hp
      case h_2.refl seen hr =>
        rw [hi hs hc' hd' ha.alike hr, hn, ha.observed]
        rfl

-- Whatever upkeep is done between the calls of a run, they are answered alike.
theorem play_eq_observe {limits : PageLimits} {steps : List Step} {seen : List Observation}
    (hs : ∀ k ∈ steps.filterMap Step.call?, k.request.IsSound)
    (hp : play tracing 0 { limits } steps = .ok seen) :
    seen = observe tracing 0 { limits } (steps.filterMap Step.call?) :=
  play_eq tracing hs isSound_empty isSound_empty ⟨rfl, rfl⟩ hp

def upkept : List Step :=
  let title (required : Bool) : Field.Source :=
    .typed "title" "string" [("required", .bool required)]
  let done : Field.Source := .typed "done" "boolean" [("defaultValue", .bool false)]
  [.call (.numbered "0" (.define "home" "note" [title true, done])),
   .upkeep .cool,
   .call (.numbered "1" (.create "home" "note" (.object [("title", .text "a")]))),
   .upkeep .reopen,
   .call (.numbered "2" (.create "home" "note" (.object [("done", .bool true)]))),
   .call (.numbered "3" (.redefine "home" "note" [title false])),
   .upkeep .warm,
   .call (.numbered "4" (.update "home" "note" "rec_1" (.object [("title", .null)]))),
   .upkeep .cool,
   .call (.numbered "5" (.get "home" "note" "rec_1"))]

theorem play_upkept :
    ∃ seen, play none 0 {} upkept = .ok seen ∧
      seen = observe none 0 {} (upkept.filterMap Step.call?) := by
  have hs : ∀ k ∈ upkept.filterMap Step.call?, k.request.IsSound := by
    simp only [upkept, Step.call?, List.filterMap_cons, List.filterMap_nil, List.forall_mem_cons,
      Call.request_numbered, Request.IsSound]
    simp
  have hp : (play none 0 {} upkept).isOk := by decide +kernel
  cases hr : play none 0 {} upkept
  case error => simp [hr, Except.isOk, Except.toBool] at hp
  case ok seen => exact ⟨seen, rfl, play_eq_observe none hs hr⟩

end Catalog

end EntityCatalog
