import EntityCatalog.Proofs.Calendar.Order
import EntityCatalog.Proofs.Catalog.Ending
import EntityCatalog.Proofs.Store.Paging
import Mathlib

namespace EntityCatalog

theorem Moment.stamp_lt_iff {m n : Moment} : m.stamp < n.stamp ↔ m.reading < n.reading := by
  rw [stamp, stamp, String.lt_iff_toList_lt, String.toList_ofList, String.toList_ofList,
    fullText_append_lt_iff]

def Event.createdAt? : Event → Option String
  | .created _ _ _ _ at' => some at'
  | _ => none

instance (scope name id : String) (ev : Event) : Decidable (ev.Resets scope name id) :=
  match ev with
  | .created .. | .deleted .. => inferInstanceAs (Decidable (_ ∧ _ ∧ _))
  | .dropped .. => inferInstanceAs (Decidable (_ ∧ _))
  | .changed .. | .redefined .. => inferInstanceAs (Decidable False)

-- The record of an entity that a creation leaves behind, unless its life ends later on.
def Event.left? (scope name : String) (later : List Event) : Event → Option (String × Memory)
  | .created s n id clean at' =>
    if s = scope ∧ n = name ∧ ∀ ev ∈ later, ¬ev.Resets scope name id then
      some (id, later.foldl (Memory.after scope name id) ⟨clean, at', at'⟩)
    else none
  | _ => none

def survivors (scope name : String) : List Event → List (String × Memory)
  | [] => []
  | ev :: later => (ev.left? scope name later).toList ++ survivors scope name later

section Survivors

variable {scope name id : String} {h later : List Event} {m : Memory} {ev : Event}
  {r : String × Memory}

theorem Event.left?_eq_some_iff : ev.left? scope name later = some (id, m) ↔
    ∃ clean at', ev = .created scope name id clean at' ∧
      (∀ ev ∈ later, ¬ev.Resets scope name id) ∧
      m = later.foldl (Memory.after scope name id) ⟨clean, at', at'⟩ := by
  cases ev <;> simp only [left?, reduceCtorEq, false_and, exists_false]
  case created s n i clean at' =>
    rw [Option.ite_none_right_eq_some, Option.some.injEq, Prod.mk.injEq]
    constructor
    case mp =>
      rintro ⟨⟨rfl, rfl, hl⟩, rfl, rfl⟩
      exact ⟨clean, at', rfl, hl, rfl⟩
    case mpr =>
      rintro ⟨clean, at', he, hl, rfl⟩
      cases he
      exact ⟨⟨rfl, rfl, hl⟩, rfl, rfl⟩

theorem live_cons_iff : Live scope name id (ev :: h) m ↔
    (∃ clean at', ev = .created scope name id clean at' ∧
      (∀ ev ∈ h, ¬ev.Resets scope name id) ∧
      m = h.foldl (Memory.after scope name id) ⟨clean, at', at'⟩) ∨ Live scope name id h m := by
  constructor
  case mp =>
    generalize he : ev :: h = l
    rintro ⟨before, clean, at', later, hl⟩
    cases before
    case nil =>
      cases he
      exact .inl ⟨clean, at', rfl, hl, rfl⟩
    case cons =>
      cases he
      exact .inr ⟨_, _, _, _, hl⟩
  case mpr =>
    rintro (⟨clean, at', rfl, hl, rfl⟩ | ⟨before, clean, at', later, hl⟩)
    case inl => exact .intro [] clean at' h hl
    case inr => exact .intro (ev :: before) clean at' later hl

theorem not_live_nil : ¬Live scope name id [] m := by
  generalize hn : ([] : List Event) = l
  rintro ⟨before, _, _, _, _⟩
  cases before <;> cases hn

theorem mem_survivors_iff : (id, m) ∈ survivors scope name h ↔ Live scope name id h m := by
  induction h
  case nil => exact iff_of_false List.not_mem_nil not_live_nil
  case cons ev h hi =>
    rw [live_cons_iff, ← hi, ← Event.left?_eq_some_iff, survivors, List.mem_append,
      Option.mem_toList]

@[simp] theorem Memory.createdAt_after : (m.after scope name id ev).createdAt = m.createdAt := by
  cases ev <;> simp only [after]
  case changed => split <;> rfl

theorem Memory.createdAt_foldl {later : List Event} :
    (later.foldl (Memory.after scope name id) m).createdAt = m.createdAt := by
  induction later generalizing m
  case nil => rfl
  case cons ev later hi => rw [List.foldl_cons, hi, createdAt_after]

theorem Event.createdAt?_of_left? (hr : ev.left? scope name later = some r) :
    ev.createdAt? = some r.2.createdAt := by
  obtain ⟨clean, at', rfl, _, hm⟩ := left?_eq_some_iff.mp hr
  rw [hm, Memory.createdAt_foldl, createdAt?]

theorem createdAts_survivors :
    ((survivors scope name h).map (·.2.createdAt)).Sublist (h.filterMap Event.createdAt?) := by
  induction h
  case nil => exact .slnil
  case cons ev h hi =>
    rw [survivors, List.map_append, List.filterMap_cons]
    cases hr : ev.left? scope name h
    case none =>
      cases ev.createdAt?
      case none => exact hi
      case some a => exact hi.cons a
    case some r =>
      rw [Event.createdAt?_of_left? hr]
      exact hi.cons_cons _

end Survivors

namespace Catalog

variable {c : Catalog} {k : Call} {calls : List Call}

def clock (c : Catalog) : List Call → List Moment
  | [] => []
  | k :: ks =>
    (if (k.outcome c).tookTime then [k.grant.now] else []) ++ clock (k.outcome c).catalog ks

theorem tookTime_of_create {g : Grant} {scope name : String} {data : Value} {r : Reply}
    (h : (c.create g scope name data).success? = some r) :
    (c.create g scope name data).tookTime := by
  unfold create at h ⊢
  dsimp only at h ⊢
  cases hq : c.requireEntity scope name <;> simp only [hq, Outcome.success?_failed] at h ⊢
  case error => cases h
  case ok e =>
    rcases hv : c.validatorOf e with ⟨_ | ⟨v, d⟩, log⟩ <;>
      simp only [hv, Outcome.success?_logged, Outcome.success?_failed] at h ⊢
    case error => cases h
    case ok =>
      cases ha : v.apply .whole data <;>
        simp only [ha, Outcome.success?_logged, Outcome.success?_failed] at h ⊢
      case error => cases h
      case ok => split <;> rfl

theorem stamp_of_event? {ev : Event} {at' : String} (h : k.event? c = some ev)
    (ha : ev.createdAt? = some at') : (k.outcome c).tookTime ∧ at' = k.grant.now.stamp := by
  obtain ⟨request, g⟩ := k
  cases request <;> simp only [Call.event?, reduceCtorEq] at h
  case create scope name data =>
    obtain ⟨r, hr, h⟩ := Option.bind_eq_some_iff.mp h
    obtain ⟨clean, _, h⟩ := Option.bind_eq_some_iff.mp h
    split at h <;> cases h
    cases ha
    exact ⟨tookTime_of_create hr, rfl⟩
  case redefine scope name fields =>
    split at h <;> cases h
    cases ha
  case drop =>
    obtain ⟨_, _, rfl⟩ := Option.map_eq_some_iff.mp h
    cases ha
  case update scope name id data =>
    obtain ⟨_, _, h⟩ := Option.bind_eq_some_iff.mp h
    obtain ⟨_, _, h⟩ := Option.bind_eq_some_iff.mp h
    cases h
    cases ha
  case delete scope name id =>
    obtain ⟨_, _, rfl⟩ := Option.map_eq_some_iff.mp h
    cases ha

theorem createdAts_history :
    ((c.history calls).filterMap Event.createdAt?).Sublist ((c.clock calls).map Moment.stamp) := by
  induction calls generalizing c
  case nil => exact .slnil
  case cons k ks hi =>
    rw [history, clock, List.filterMap_append, List.map_append]
    refine List.Sublist.append ?_ hi
    cases he : k.event? c
    case none => exact List.nil_sublist _
    case some ev =>
      cases ha : ev.createdAt?
      case none => simp [ha]
      case some at' =>
        obtain ⟨ht, rfl⟩ := stamp_of_event? he ha
        simp [ha, ht]

theorem pairwise_survivors {scope name : String}
    (ht : (c.clock calls).Pairwise (·.reading < ·.reading)) :
    (survivors scope name (c.history calls)).Pairwise (·.2.createdAt < ·.2.createdAt) := by
  have hs : ((c.clock calls).map Moment.stamp).Pairwise (· < ·) := by
    rw [List.pairwise_map]
    exact ht.imp Moment.stamp_lt_iff.mpr
  rw [← List.pairwise_map]
  exact hs.sublist (createdAts_survivors.trans createdAts_history)

-- Which of two records comes first in a list that is not sorted by a member.
def Newer (a b : String × Memory) : Prop :=
  RecordRow.ageOf a.2.createdAt a.1 < RecordRow.ageOf b.2.createdAt b.1

def newestFirst (h : List Event) (scope name : String) (cl : Clause) : List (String × Memory) :=
  ((survivors scope name h).filter fun r => cl.selects r.2.data).reverse

variable {limits : PageLimits} {scope name : String} {h : List Event} {cl : Clause}
  {filter : Option Predicate} {rows : List RecordRow}

theorem pairwise_newestFirst
    (hs : (survivors scope name h).Pairwise (·.2.createdAt < ·.2.createdAt)) :
    (newestFirst h scope name cl).Pairwise Newer := by
  rw [newestFirst, List.pairwise_reverse]
  refine (hs.filter _).imp fun ht => ?_
  exact OrderDual.toDual_lt_toDual.mpr (Prod.Lex.toLex_lt_toLex.mpr (.inl ht))

theorem Holds.mem_newestFirst_iff (hh : c.Holds h) {id : String} {m : Memory} :
    (id, m) ∈ newestFirst h scope name cl ↔
      (∃ r, c.tables.record? scope name id = some r ∧ r.memory = m) ∧ cl.selects m.data := by
  rw [newestFirst, List.mem_reverse, List.mem_filter, mem_survivors_iff, hh.live_iff]

-- The order of creation and that of the stamps and identifiers are the same.
theorem Holds.map_memory_eq (hc : c.IsSound) (hh : c.Holds h)
    (hs : (survivors scope name h).Pairwise (·.2.createdAt < ·.2.createdAt))
    (hl : c.tables.IsListing scope name filter none cl rows) :
    rows.map (fun r => (r.id, r.memory)) = newestFirst h scope name cl := by
  have : Std.Irrefl Newer := ⟨fun _ => lt_irrefl _⟩
  have : Std.Antisymm Newer := ⟨fun _ _ ha hb => absurd hb (lt_asymm ha)⟩
  have hr : (rows.map fun r => (r.id, r.memory)).Pairwise Newer := by
    rw [List.pairwise_map]
    exact hl.ordered.imp RecordRow.isNewer_iff.mp
  refine hr.eq_of_mem_iff (pairwise_newestFirst hs) fun ⟨id, m⟩ => ?_
  rw [hh.mem_newestFirst_iff, List.mem_map]
  simp only [hl.mem_iff, hc.tables.record?_eq_some_iff, Prod.mk.injEq]
  constructor
  case mp =>
    rintro ⟨r, ⟨hr, hs, hn, hv⟩, rfl, rfl⟩
    exact ⟨⟨r, ⟨hr, hs, hn, rfl⟩, rfl⟩, hv⟩
  case mpr =>
    rintro ⟨⟨r, ⟨hr, hs, hn, rfl⟩, rfl⟩, hv⟩
    exact ⟨r, ⟨hr, hs, hn, hv⟩, rfl, rfl⟩

section Answers

variable {asked : QueryText} {q : Query} {e : Entity}

theorem unsorted_of_parse {fields : List Field} (hq : Query.parse fields limits asked = .ok q)
    (hs : Query.given? asked.sort = none) (hp : asked.page = none) (hl : asked.limit = none) :
    q.sort = none ∧ q.page = none := by
  unfold Query.parse at hq
  rw [hs, hp, hl, Option.mapM_none] at hq
  cases hm : (Query.given? asked.search).mapM (Query.parseSearch fields) <;>
    simp only [hm, bind, Except.bind, pure, Except.pure, Failure.lift, Option.isSome_none,
      Bool.or_self, Bool.false_eq_true, if_false, reduceCtorEq] at hq
  repeat' split at hq
  all_goals cases hq
  all_goals exact ⟨rfl, rfl⟩

def replyOf (name : String) (select : List String) (found : List (String × Memory)) : Reply where
  ok := true
  action := "list_records"
  data :=
    [("count", .int found.length),
     ("items", .list (found.map fun (id, m) =>
       .object (Listing.project select (m.toDocument name id))))]
  extras := some [("total", .int found.length), ("hasMore", .bool false)]

theorem list_of_isListing (hc : c.IsSound) (he : c.tables.entity? scope name = .ok (some e))
    (hq : Query.parse e.fields c.limits asked = .ok q) (hs : q.sort = none) (hp : q.page = none)
    (hl : c.tables.IsListing scope name q.filter none cl rows) (t : Telemetry) :
    ((c.list scope name asked).run t).1.answer =
      .ok (replyOf name q.select (rows.map fun r => (r.id, r.memory))) := by
  rcases hc.requireEntity_eq scope name with ⟨hn, _⟩ | ⟨e', he', hr, rfl, rfl⟩
  case inl => cases hn.symm.trans he
  case inr =>
    cases he'.symm.trans he
    have hf : c.fetch e q = .ok (rows, rows.length) := by
      simp [fetch, hs, hp, hl.found, bind, Except.bind]
    have hd : ∀ r ∈ rows, r.toDocument = r.memory.toDocument e.name r.id := by
      intro r hm
      rw [RecordRow.toDocument, (hl.mem_iff.mp hm).2.2.1]
      rfl
    have hm : (rows.map fun r => Value.object (Listing.project q.select r.toDocument)) =
        rows.map fun r => .object (Listing.project q.select (r.memory.toDocument e.name r.id)) :=
      List.map_congr_left fun r hm => by rw [hd r hm]
    have ht : ((c.list e.scope e.name asked).run t).1 = c.listed (.ok (q, rows, rows.length)) := by
      refine congrArg c.listed ((query_erases.result t).trans ?_)
      simp [found, hr, hq, hf, bind, Except.bind, pure, Except.pure]
    simp [ht, listed, hp, Listing.pageInfo, Outcome.told, Except.map, replyOf, hm,
      Function.comp_def]

theorem prepare_of_not_breaks (hf : c.tables.IsFinite)
    (he : c.tables.entity? scope name = .ok (some e))
    (hq : Query.parse e.fields c.limits asked = .ok q) (hcl : Tables.clauseOf q.filter = .ok cl)
    (hb : ¬(Request.list scope name asked).Breaks c) :
    Tables.prepare q.filter = .ok cl ∧
      ∀ r ∈ c.tables.recordsOf scope name, ¬cl.Stumbles r.data false := by
  have ho : ¬c.tables.IsOvertaxed scope name cl q :=
    fun ho => hb ⟨e, he, .inr ⟨q, cl, hq, hcl, ho⟩⟩
  rw [Tables.isOvertaxed_iff hf, not_or, not_or, not_or] at ho
  obtain ⟨hh, _, hr, _⟩ := ho
  exact ⟨by rw [Tables.prepare_of_clauseOf hcl, if_neg hh], fun r hm hs => hr ⟨r, hm, hs⟩⟩

end Answers

-- Stamps are ordered as the times are. So, as long as the clock goes forward, a list that is not
-- sorted and not cut into pages tells of the selected records that are there, from the last one
-- that was created to the first one, whatever else was asked in between.
theorem list_newestFirst {limits : PageLimits} {calls : List Call}
    (hs : ∀ k ∈ calls, k.request.IsSound)
    (ht : (clock { limits } calls).Pairwise (·.reading < ·.reading)) :
    (∀ m n : Moment, m.stamp < n.stamp ↔ m.reading < n.reading) ∧
    (∀ scope name id m, (id, m) ∈ survivors scope name (history { limits } calls) ↔
      Live scope name id (history { limits } calls) m) ∧
    ∀ scope name asked e q,
      Query.given? asked.sort = none → asked.page = none → asked.limit = none →
      (after { limits } calls).tables.entity? scope name = .ok (some e) →
      Query.parse e.fields (after { limits } calls).limits asked = .ok q →
      ¬(Request.list scope name asked).Breaks (after { limits } calls) →
      ∃ cl, Tables.clauseOf q.filter = .ok cl ∧
        ∀ t, (((after { limits } calls).list scope name asked).run t).1.answer =
          .ok (replyOf name q.select (newestFirst (history { limits } calls) scope name cl)) := by
  have ⟨hc, hh⟩ := (holds_empty limits).after isSound_empty hs
  rw [List.nil_append] at hh
  refine ⟨fun m n => Moment.stamp_lt_iff, fun scope name id m => mem_survivors_iff, ?_⟩
  intro scope name asked e q ha hp hl he hq hb
  obtain ⟨cl, hcl⟩ := Predicate.exists_clauseOf (Query.isTaken_of_parse hq)
  obtain ⟨hsort, hpage⟩ := unsorted_of_parse hq ha hp hl
  have hreach : Reachable limits (after { limits } calls) := .after .empty hs
  have ⟨hprep, hr⟩ := prepare_of_not_breaks hreach.isFinite he hq hcl hb
  have ⟨rows, hrows, _⟩ := Tables.exists_isListing hc.tables.ids hprep hr
    (show ∀ r ∈ _, ∀ k ∈ (none : Option SortKey), _ from nofun)
  refine ⟨cl, hcl, fun t => ?_⟩
  rw [list_of_isListing hc he hq hsort hpage hrows t,
    hh.map_memory_eq hc (pairwise_survivors ht) hrows]

def ticking : List Call :=
  let fields : List Field.Source := [.typed "title" "string" [], .typed "done" "boolean" []]
  let note (title : String) (done : Bool) : Value :=
    .object [("title", .text title), ("done", .bool done)]
  let calls : List Call :=
    [.numbered "0" (.define "home" "note" fields),
     .numbered "1" (.create "home" "note" (note "a" true)),
     .numbered "2" (.create "home" "note" (note "b" true)),
     .numbered "3" (.create "home" "note" (note "c" false)),
     .numbered "4" (.create "home" "note" (.object [("title", .int 1)])),
     .numbered "5" (.update "home" "note" "rec_1" (.object [("title", .text "z")])),
     .numbered "6" (.redefine "home" "note" fields.reverse),
     .numbered "7" (.create "home" "note" (note "d" true)),
     .numbered "8" (.delete "home" "note" "rec_2")]
  calls.mapIdx fun n k =>
    { k with grant.now := { k.grant.now with
      micros := n * 500000 % microsPerDay, micros_lt := Nat.mod_lt _ (by decide) } }

theorem list_newestFirst_ticking :
    let c : Catalog := after {} ticking
    let asked : QueryText := { search := some "done:true" }
    (clock {} ticking).Pairwise (·.reading < ·.reading) ∧
      ¬(Request.list "home" "note" asked).Breaks c ∧
      ∃ found,
        (∀ t, ((c.list "home" "note" asked).run t).1.answer = .ok (replyOf "note" [] found)) ∧
        found.map (·.1) = ["rec_7", "rec_1"] := by
  intro c asked
  have hs : ∀ k ∈ ticking, k.request.IsSound := by
    simp [ticking, Call.numbered, Request.IsSound]
  have ht : (clock {} ticking).Pairwise (·.reading < ·.reading) := by decide +kernel
  have hb : ¬(Request.list "home" "note" asked).Breaks c := by
    have hreach : Reachable {} c := .after .empty hs
    let k := Call.numbered "9" (.list "home" "note" asked)
    have ho : (k.traced none 0 c).1.answer.isOk := by decide +kernel
    have hf : k.IsFresh c.tables := by decide +kernel
    intro hb
    have ha : ∃ f, (k.traced none 0 c).1.answer = .error f :=
      ((hreach.ends (k := k) trivial).unanswered hf).mpr hb
    obtain ⟨f, ha⟩ := ha
    rw [ha] at ho
    cases ho
  have hf : (do
      let e ← (← (c.tables.entity? "home" "note").toOption)
      let q ← (Query.parse e.fields c.limits asked).toOption
      let cl ← (Tables.clauseOf q.filter).toOption
      return (q.select, (newestFirst (history {} ticking) "home" "note" cl).map (·.1))) =
        some ([], ["rec_7", "rec_1"]) := by
    decide +kernel
  simp only [bind, Option.bind_eq_some_iff, Except.toOption_eq_some_iff] at hf
  obtain ⟨e?, he, e, rfl, q, hq, cl, hcl, hf⟩ := hf
  obtain ⟨_, _, hl⟩ := list_newestFirst hs ht
  obtain ⟨cl', hcl', hl⟩ := hl "home" "note" asked e q rfl rfl rfl he hq hb
  cases hcl.symm.trans hcl'
  obtain ⟨hsel, hn⟩ := Prod.mk.inj (Option.some.inj hf)
  rw [hsel] at hl
  refine ⟨ht, hb, _, ?_, hn⟩
  dsimp only [c]
  exact hl

end Catalog

end EntityCatalog
