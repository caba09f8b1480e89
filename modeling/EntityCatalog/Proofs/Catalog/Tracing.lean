import EntityCatalog.Proofs.Catalog.Isolation
import EntityCatalog.Proofs.Telemetry.Nesting

namespace EntityCatalog

def Document.without (d : Document) (key : String) : Document := d.filter fun m => m.1 != key

theorem Document.without_set {d : Document} {key : String} {v : Value} :
    (d.set key v).without key = d.without key := by
  cases h : d.has key
  case false => simp [without, set, h]
  case true =>
    -- Only members of that name are replaced, and they keep it.
    have hs (m : String × Value) : (if m.1 == key then (key, v) else m).1 = m.1 := by
      by_cases hm : m.1 = key <;> simp [hm]
    have hr (m : String × Value) (hm : m.1 != key) : (if m.1 == key then (key, v) else m) = m := by
      simp [bne_iff_ne.mp hm]
    simp only [without, set, h, if_true, List.filter_map, Function.comp_def, hs]
    rw [List.map_congr_left fun m hm => hr m (List.mem_filter.mp hm).2]
    exact List.map_id' _

-- The reply without what is told of times. Nothing may be told beside the data, or no extras.
def Reply.untimed (r : Reply) : Reply :=
  { r with extras := some ((r.extras.getD []).without "telemetry") }

theorem Reply.untimed_withSpan {r : Reply} {timer : Timer} {s : Span} :
    (r.withSpan timer s).untimed = r.untimed := by
  simp [untimed, withSpan, Document.without_set]

def Observation.untimed (o : Observation) : Observation :=
  { o with answer := o.answer.map Reply.untimed }

theorem Outcome.untimed_withSpan {o : Outcome} {timer : Timer} {s : Span} :
    (o.withSpan timer s).observed.untimed = o.observed.untimed := by
  cases ha : o.answer <;>
    simp [withSpan, observed, Observation.untimed, ha, Except.map, Reply.untimed_withSpan]

def Reply.isTimed (r : Reply) : Bool := Document.has (r.extras.getD []) "telemetry"

-- Replies tell of times, or else they do not.
structure Outcome.Tells (o : Outcome) (times : Bool) : Prop where
  isTimed : ∀ r, o.answer = .ok r → r.isTimed = times

namespace Outcome.Tells

variable {o : Outcome} {c : Catalog} {action : String} {f : Failure} {data : Document}
  {times : Bool}

theorem withSpan {timer : Timer} {s : Span} : (o.withSpan timer s).Tells true where
  isTimed := by
    intro r hr
    cases ha : o.answer <;> simp only [Outcome.withSpan, ha, Except.map] at hr <;> cases hr
    exact Document.has_set_self

theorem failed : (Outcome.failed c action f).Tells false :=
  ⟨by cases f <;> simp [Outcome.failed, Reply.isTimed, Reply.rejected, Document.has]⟩

theorem told : (Outcome.told c action data).Tells false :=
  ⟨by simp [Outcome.told, Reply.isTimed, Document.has]⟩

theorem timed (h : o.Tells times) : o.timed.Tells times := ⟨h.isTimed⟩

theorem granted (h : o.Tells times) : o.granted.Tells times := ⟨h.isTimed⟩

theorem logged (h : o.Tells times) {entries : List LogEntry} : (o.logged entries).Tells times :=
  ⟨h.isTimed⟩

theorem mapAnswer (h : o.Tells times) {extend : Reply → Reply}
    (he : ∀ r, (extend r).extras = r.extras) :
    Tells { o with answer := o.answer.map extend } times where
  isTimed := by
    intro r hr
    cases ha : o.answer <;> simp only [ha, Except.map] at hr <;> cases hr
    rw [Reply.isTimed, he]
    exact h.isTimed _ ha

theorem withValidator (h : o.Tells times) {key : EntityKey} {fs : List Field} {entry : LogEntry} :
    (Catalog.withValidator c key fs o entry).Tells times := by
  unfold Catalog.withValidator
  split
  case h_1 => exact ⟨nofun⟩
  case h_2 => exact ⟨h.isTimed⟩

end Outcome.Tells

theorem Listing.not_has_pageInfo {total : Int} {page : Option Page} {info : Document}
    (h : pageInfo total page = .ok info) : info.has "telemetry" = false := by
  cases page
  case none => cases h; rfl
  case some p =>
    simp only [pageInfo, bind, Except.bind] at h
    split at h <;> cases h
    rfl

namespace Catalog

variable {c : Catalog} {g : Grant} {scope name id : String} {fields : List Field.Source}
  {data : Value} {asked : QueryText}

theorem tells_define : (c.define g scope name fields).Tells false := by
  unfold define
  dsimp only
  split
  case h_1 => exact .failed
  case h_2 =>
    split
    case h_1 => exact Outcome.Tells.failed.granted
    case h_2 =>
      split
      case h_1 => exact Outcome.Tells.failed.granted
      case h_2 => exact Outcome.Tells.failed.granted
      case h_3 => exact Outcome.Tells.told.granted.withValidator

theorem tells_redefine : (c.redefine g scope name fields).Tells false := by
  unfold redefine
  dsimp only
  split
  case h_1 => exact .failed
  case h_2 =>
    split
    case h_1 => exact Outcome.Tells.failed.timed
    case h_2 => exact Outcome.Tells.told.timed.withValidator.mapAnswer fun _ => rfl

theorem tells_drop : (c.drop scope name).Tells false := by
  unfold drop
  dsimp only
  split
  case h_1 => exact .failed
  case h_2 => exact Outcome.Tells.told.logged

theorem tells_entities : (c.entities scope).Tells false := by
  unfold entities
  split
  case h_1 => exact ⟨nofun⟩
  case h_2 => exact .told

theorem tells_entity : (c.entity scope name).Tells false := by
  unfold entity
  dsimp only
  split
  case h_1 => exact .failed
  case h_2 => exact .told

theorem tells_create : (c.create g scope name data).Tells false := by
  unfold create
  dsimp only
  split
  case h_1 => exact .failed
  case h_2 =>
    split
    case h_1 => exact Outcome.Tells.failed.logged
    case h_2 =>
      split
      case h_1 => exact Outcome.Tells.failed.logged
      case h_2 =>
        split
        case h_1 => exact Outcome.Tells.failed.granted.logged
        case h_2 => exact Outcome.Tells.told.granted.logged

theorem tells_get : (c.get scope name id).Tells false := by
  unfold get
  dsimp only
  split
  case h_1 => exact .failed
  case h_2 => exact .told

theorem tells_delete : (c.delete scope name id).Tells false := by
  unfold delete
  dsimp only
  split
  case h_1 => exact .failed
  case h_2 => exact .told

theorem tells_update : (c.update g scope name id data).Tells false := by
  unfold update
  dsimp only
  split
  case h_1 => exact .failed
  case h_2 =>
    split
    case h_1 => exact Outcome.Tells.failed.logged
    case h_2 =>
      split
      case h_1 => exact Outcome.Tells.failed.logged
      case h_2 => exact Outcome.Tells.told.timed.logged

theorem tells_listed {found : Except Failure (Query × List RecordRow × Nat)} :
    (c.listed found).Tells false := by
  unfold listed
  dsimp only
  split
  case h_1 => exact .failed
  case h_2 =>
    split
    case h_1 => exact ⟨nofun⟩
    case h_2 info hi =>
      refine ⟨fun r hr => ?_⟩
      cases hr
      exact Listing.not_has_pageInfo hi

theorem tells_outcome (k : Call) : (k.outcome c).Tells false := by
  obtain ⟨r, g⟩ := k
  cases r
  case define => exact tells_define
  case entities => exact tells_entities
  case entity => exact tells_entity
  case redefine => exact tells_redefine
  case drop => exact tells_drop
  case create => exact tells_create
  case get => exact tells_get
  case list => exact tells_listed
  case update => exact tells_update
  case delete => exact tells_delete

end Catalog

theorem Telemetry.exists_getLast?_leaveRoot {t u : Telemetry} {name : String}
    (h : (t.enterRoot name).StaysIn u) :
    ∃ s, (u.leaveRoot t.tracer.running).tracer.finished.getLast? = some s := by
  rcases h.2 with ⟨he, _⟩ | ⟨s, around, notes, more, he, hu⟩
  case inl => cases he
  case inr =>
    cases he
    simp [leaveRoot, Tracer.leave_of_running_root hu]

-- A call that is traced comes to what it comes to otherwise, but for what is told of times.
theorem Call.run_traced (c : Catalog) (k : Call) (t : Telemetry) :
    let r := (k.request.traced c k.grant).run t
    r.1.catalog = (k.outcome c).catalog ∧
      r.1.observed.untimed = (k.outcome c).observed.untimed ∧
      r.1.Tells t.timer?.isSome ∧
      t.StaysIn r.2 := by
  rw [Request.traced, Outcome.run_traced]
  cases ht : t.timer?
  case none =>
    obtain ⟨ho, hs⟩ := Catalog.run_erased c k t
    dsimp only
    rw [ho]
    exact ⟨rfl, rfl, Catalog.tells_outcome k, hs⟩
  case some timer =>
    obtain ⟨ho, hs⟩ := Catalog.run_erased c k (t.enterRoot k.request.spanName)
    obtain ⟨s, hl⟩ := Telemetry.exists_getLast?_leaveRoot hs
    dsimp only
    rw [hl, ho]
    exact ⟨rfl, Outcome.untimed_withSpan, .withSpan, hs.1, .of_running_eq rfl⟩

namespace Catalog

-- What callers get of calls, and the catalog after them.
def serveTraced (c : Catalog) : List Call → StateM Telemetry (List Observation × Catalog)
  | [] => return ([], c)
  | k :: calls => do
    let o ← k.request.traced c k.grant
    let (seen, d) ← serveTraced o.catalog calls
    return (o.observed :: seen, d)

theorem run_serveTraced_cons {c : Catalog} {k : Call} {calls : List Call} {t : Telemetry} :
    (c.serveTraced (k :: calls)).run t =
      let r := (k.request.traced c k.grant).run t
      let rest := (r.1.catalog.serveTraced calls).run r.2
      ((r.1.observed :: rest.1.1, rest.1.2), rest.2) :=
  rfl

-- Calls that are traced are answered as calls that are not, up to what is told of times, which is
-- told only with a timer. They leave the same catalog behind, and the spans around them open.
theorem serve_untraced (c : Catalog) (calls : List Call) (t : Telemetry) :
    let plain := (c.serveTraced calls).run {}
    let traced := (c.serveTraced calls).run t
    traced.1.1.map Observation.untimed = plain.1.1.map Observation.untimed ∧
      traced.1.2 = plain.1.2 ∧
      (∀ o ∈ traced.1.1, ∀ r, o.answer = .ok r → r.isTimed = t.timer?.isSome) ∧
      t.StaysIn traced.2 := by
  induction calls generalizing c t
  case nil => exact ⟨rfl, rfl, nofun, rfl, .refl⟩
  case cons k calls hi =>
    -- Both runs go on from what the first call left, and are compared with a fresh start.
    obtain ⟨hcp, hop, _, _⟩ := k.run_traced c {}
    obtain ⟨hct, hot, hr, hs⟩ := k.run_traced c t
    obtain ⟨hsp, hdp, _, _⟩ := hi (k.outcome c).catalog ((k.request.traced c k.grant).run {}).2
    obtain ⟨hst, hdt, hrs, hss⟩ := hi (k.outcome c).catalog ((k.request.traced c k.grant).run t).2
    dsimp only
    simp only [run_serveTraced_cons, hcp, hct, List.map_cons, hop, hot]
    refine ⟨by rw [hst, hsp], hdt.trans hdp.symm, ?_, hss.1.trans hs.1, hs.2.trans hss.2⟩
    intro o ho r ha
    rcases List.mem_cons.mp ho with rfl | ho
    case inl => exact hr.isTimed r ha
    case inr => rw [hrs o ho r ha, hs.1]

end Catalog

end EntityCatalog
