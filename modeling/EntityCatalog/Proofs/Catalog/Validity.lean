import EntityCatalog.Proofs.Catalog.History
import EntityCatalog.Proofs.Validation.Fixpoint

namespace EntityCatalog

section Record

variable (scope name id : String)

-- Events after which the record is no longer what was validated with the present fields.
def Event.Unsettles (ev : Event) : Prop := ev.Resets scope name id ∨ ev = .redefined scope name

-- A history in which the record was created, and has lived on since with the same fields.
inductive Settled : List Event → Prop
  | intro (before : List Event) (clean : Document) (at' : String) (later : List Event) :
    (∀ ev ∈ later, ¬ev.Unsettles scope name id) →
    Settled (before ++ .created scope name id clean at' :: later)

def Event.settle (settled : Bool) : Event → Bool
  | .created s n i .. => if s = scope ∧ n = name ∧ i = id then true else settled
  | .changed .. => settled
  | .deleted s n i => if s = scope ∧ n = name ∧ i = id then false else settled
  | .redefined s n | .dropped s n => if s = scope ∧ n = name then false else settled

end Record

variable {scope name id : String} {h : List Event} {ev : Event}

theorem Event.settle_of_not_unsettles (hu : ¬ev.Unsettles scope name id) {settled : Bool} :
    ev.settle scope name id settled = settled := by
  cases ev <;> simp only [Unsettles, Resets, false_or, reduceCtorEq, or_false,
    redefined.injEq] at hu
  all_goals first | rfl | exact if_neg hu

theorem Event.eq_created_of_settle (hu : ev.Unsettles scope name id) {settled : Bool}
    (hs : ev.settle scope name id settled) :
    ∃ clean at', ev = .created scope name id clean at' := by
  cases ev <;> simp_all [settle, Unsettles, Resets]

theorem foldl_settle {later : List Event} (hu : ∀ ev ∈ later, ¬ev.Unsettles scope name id) :
    later.foldl (Event.settle scope name id) true = true := by
  induction later
  case nil => rfl
  case cons ev later hi =>
    have ⟨he, hu⟩ := List.forall_mem_cons.mp hu
    rw [List.foldl_cons, Event.settle_of_not_unsettles he, hi hu]

theorem Settled.append (hs : Settled scope name id h) (hu : ¬ev.Unsettles scope name id) :
    Settled scope name id (h ++ [ev]) := by
  cases hs
  case intro before clean a later hl =>
    have hl := List.forall_mem_append.mpr ⟨hl, List.forall_mem_singleton.mpr hu⟩
    simpa using Settled.intro before clean a (later ++ [ev]) hl

theorem settled_iff :
    Settled scope name id h ↔ h.foldl (Event.settle scope name id) false = true := by
  constructor
  case mp =>
    rintro ⟨before, clean, a, later, hl⟩
    simpa [Event.settle] using foldl_settle hl
  case mpr =>
    intro hs
    induction h using List.reverseRecOn
    case nil => cases hs
    case append_singleton h ev hi =>
      rw [List.foldl_append, List.foldl_cons, List.foldl_nil] at hs
      by_cases hu : ev.Unsettles scope name id
      case neg =>
        rw [Event.settle_of_not_unsettles hu] at hs
        exact (hi hs).append hu
      case pos =>
        have ⟨clean, a, he⟩ := Event.eq_created_of_settle hu hs
        exact he ▸ .intro h clean a [] (by simp)

instance : Decidable (Settled scope name id h) := decidable_of_iff _ settled_iff.symm

theorem Settled.of_append (hs : Settled scope name id (h ++ [ev])) :
    (∃ clean at', ev = .created scope name id clean at') ∨
      Settled scope name id h ∧ ¬ev.Unsettles scope name id := by
  rw [settled_iff, List.foldl_append, List.foldl_cons, List.foldl_nil] at hs
  by_cases hu : ev.Unsettles scope name id
  case pos => exact .inl (Event.eq_created_of_settle hu hs)
  case neg =>
    rw [Event.settle_of_not_unsettles hu] at hs
    exact .inr ⟨settled_iff.mpr hs, hu⟩

theorem Settled.of_append_of_ne (hs : Settled scope name id (h ++ [ev]))
    (he : ∀ clean at', ev ≠ .created scope name id clean at') :
    Settled scope name id h ∧ ¬ev.Unsettles scope name id :=
  hs.of_append.resolve_left fun ⟨clean, a, hc⟩ => he clean a hc

def Event.written : Event → Document
  | .created _ _ _ clean _ => clean
  | .changed _ _ _ changes _ => changes
  | _ => []

namespace Tables

structure IsValid (t : Tables) (scope name id : String) (e : Entity) (r : RecordRow)
    (v : Validator) : Prop where
  entity   : t.entity? scope name = .ok (some e)
  record   : t.record? scope name id = some r
  made     : Validator.generate e.fields = .ok v
  accepted : v.Accepts r.data

namespace IsValid

variable {t t' : Tables} {e e' : Entity} {r q : RecordRow} {v w : Validator} {fs : List Field}
  {s n i at' : String} {data : Value} {changes : Document}

theorem insertEntity (hv : t.IsValid scope name id e r v) (ht : t.IsSound)
    (hf : Field.AreAccepted e'.fields) (hi : t.insertEntity e' = .ok t') :
    t'.IsValid scope name id e r v where
  entity   := ht.entity?_insertEntity_of_some hf hi hv.entity
  record   := by rw [(insertEntity_eq_ok_iff.mp hi).2]; exact hv.record
  made     := hv.made
  accepted := hv.accepted

theorem setFields (hv : t.IsValid scope name id e r v) (ht : t.IsSound)
    (he : t.entity? s n = .ok (some e')) (hf : Field.AreAccepted fs)
    (hk : ¬(scope = s ∧ name = n)) : (t.setFields e'.id fs at').IsValid scope name id e r v where
  entity   := ht.entity?_setFields_of_ne he hf hk hv.entity
  record   := hv.record
  made     := hv.made
  accepted := hv.accepted

theorem eraseEntity (hv : t.IsValid scope name id e r v) (ht : t.IsSound)
    (he : t.entity? s n = .ok (some e')) (hk : ¬(scope = s ∧ name = n)) :
    (t.eraseEntity e'.id).IsValid scope name id e r v where
  entity   := ht.entity?_eraseEntity_of_ne he hk hv.entity
  record   := by
    have ⟨q, hq, ho, hs, hn⟩ := ht.entity?_eq_some_iff.mp he
    rw [← ho.id, ht.record?_eraseEntity hq, ho.scope, ho.name, hs, hn, if_neg hk]
    exact hv.record
  made     := hv.made
  accepted := hv.accepted

theorem insertRecord (hv : t.IsValid scope name id e r v) (ht : t.IsSound) (ht' : t'.IsSound)
    (hi : t.insertRecord q = .ok t')
    (hk : ¬(q.scope = scope ∧ q.entityName = name ∧ q.id = id)) :
    t'.IsValid scope name id e r v where
  entity   := by rw [(insertRecord_eq_ok_iff.mp hi).2]; exact hv.entity
  record   := by rw [ht.record?_insertRecord ht' hi, if_neg hk]; exact hv.record
  made     := hv.made
  accepted := hv.accepted

theorem setData_of_ne (hv : t.IsValid scope name id e r v) (ht : t.IsSound) (hk : id ≠ i) :
    (t.setData i changes at').IsValid scope name id e r v where
  entity   := hv.entity
  record   := by rw [ht.record?_setData, if_neg hk]; exact hv.record
  made     := hv.made
  accepted := hv.accepted

theorem eraseRecord_of_ne (hv : t.IsValid scope name id e r v) (ht : t.IsSound) (hk : id ≠ i) :
    (t.eraseRecord i).IsValid scope name id e r v where
  entity   := hv.entity
  record   := by rw [ht.record?_eraseRecord, if_neg hk]; exact hv.record
  made     := hv.made
  accepted := hv.accepted

theorem eraseRecord (hv : t.IsValid scope name id e r v) (ht : t.IsSound)
    (hq : t.record? s n i = some q) (hk : ¬(s = scope ∧ n = name ∧ i = id)) :
    (t.eraseRecord i).IsValid scope name id e r v := by
  refine hv.eraseRecord_of_ne ht ?_
  rintro rfl
  have ⟨hs, hn⟩ := ht.key_eq_of_record? hq hv.record
  exact hk ⟨hs, hn, rfl⟩

theorem of_insertRecord (ht : t.IsSound) (ht' : t'.IsSound)
    (he : t.entity? q.scope q.entityName = .ok (some e)) (hg : Validator.generate e.fields = .ok v)
    (ha : v.apply .whole data = .ok q.data) (hs : q.data.IsStable)
    (hi : t.insertRecord q = .ok t') : t'.IsValid q.scope q.entityName q.id e q v where
  entity   := by rw [(insertRecord_eq_ok_iff.mp hi).2]; exact he
  record   := by rw [ht.record?_insertRecord ht' hi, if_pos ⟨rfl, rfl, rfl⟩]
  made     := hg
  accepted := by
    have ⟨_, _, ha⟩ := Validator.apply_eq_ok_iff.mp ha
    exact Validator.accepts_of_applyObject (ht.accepted he) hg ha hs

theorem setData_self (hv : t.IsValid scope name id e r v) (ht : t.IsSound)
    (ha : v.apply .changes data = .ok changes) (hs : changes.IsStable) (at' : String) :
    ∃ q, (t.setData id (r.data.merge changes) at').IsValid scope name id e q v := by
  have hr : (t.setData id (r.data.merge changes) at').record? scope name id = _ :=
    ht.record?_setData
  rw [if_pos rfl, hv.record] at hr
  have hn := Validator.nodup_names (ht.accepted hv.entity) hv.made
  have ⟨_, _, ha⟩ := Validator.apply_eq_ok_iff.mp ha
  exact ⟨_, hv.entity, hr, hv.made, hv.accepted.merge hn ha hs⟩

-- Changes of any record are those that the validator of its own entity has passed.
theorem setData (hv : t.IsValid scope name id e r v) (ht : t.IsSound)
    (he : t.entity? s n = .ok (some e')) (hg : Validator.generate e'.fields = .ok w)
    (ha : w.apply .changes data = .ok changes) (hq : t.record? s n i = some q)
    (hs : changes.IsStable) (at' : String) :
    ∃ r', (t.setData i (q.data.merge changes) at').IsValid scope name id e r' v := by
  by_cases hi : id = i
  case neg => exact ⟨r, hv.setData_of_ne ht hi⟩
  case pos =>
    subst hi
    obtain ⟨rfl, rfl⟩ := ht.key_eq_of_record? hq hv.record
    cases hq.symm.trans hv.record
    cases he.symm.trans hv.entity
    cases hg.symm.trans hv.made
    exact hv.setData_self ht ha hs at'

end IsValid

end Tables

namespace Catalog

def Keeps (c : Catalog) (h : List Event) : Prop :=
  ∀ scope name id, Settled scope name id h → ∃ e r v, c.tables.IsValid scope name id e r v

variable {c c' : Catalog} {scope : String} {ev : Option Event}

theorem Effect.keeps (he : c.Effect scope ev c') (hc : c.IsSound) (hk : c.Keeps h)
    (hs : ∀ ev' ∈ ev.toList, ev'.written.IsStable) : c'.Keeps (h ++ ev.toList) := by
  have ht := hc.tables
  have ht' := (he.isSound hc).tables
  intro s n i hl
  cases he
  case nothing => exact hk s n i (by simpa using hl)
  case asked => exact hk s n i (by simpa using hl)
  case defined hf hi =>
    have ⟨e, r, v, hv⟩ := hk s n i (by simpa using hl)
    exact ⟨e, r, v, hv.insertEntity ht hf hi⟩
  case redefined he hf =>
    obtain ⟨hl, hn⟩ := hl.of_append_of_ne nofun
    have ⟨e, r, v, hv⟩ := hk s n i hl
    exact ⟨e, r, v, hv.setFields ht he hf fun ⟨hs, hm⟩ => hn (.inr (by rw [hs, hm]))⟩
  case dropped he =>
    obtain ⟨hl, hn⟩ := hl.of_append_of_ne nofun
    have ⟨e, r, v, hv⟩ := hk s n i hl
    exact ⟨e, r, v, hv.eraseEntity ht he fun ⟨hs, hm⟩ => hn (.inl ⟨hs.symm, hm.symm⟩)⟩
  case created name e v data clean id a t vs he hg ha hi hv =>
    rcases hl.of_append with ⟨_, _, hn⟩ | ⟨hl, hn⟩
    case inl =>
      cases hn
      have hs : clean.IsStable := hs (.created scope n i clean a) (by simp)
      exact ⟨e, _, v, .of_insertRecord ht ht' he hg ha hs hi⟩
    case inr =>
      have ⟨e, r, v, hv⟩ := hk s n i hl
      exact ⟨e, r, v, hv.insertRecord ht ht' hi fun hne => hn (.inl hne)⟩
  case changed name e v data changes id r a vs he hg ha hr _ =>
    obtain ⟨hl, _⟩ := hl.of_append_of_ne nofun
    have ⟨e', q, w, hv⟩ := hk s n i hl
    have hs : changes.IsStable := hs (.changed scope name id changes a) (by simp)
    have ⟨q, hq⟩ := hv.setData ht he hg ha hr hs a
    exact ⟨e', q, w, hq⟩
  case deleted hr =>
    obtain ⟨hl, hn⟩ := hl.of_append_of_ne nofun
    have ⟨e, q, v, hv⟩ := hk s n i hl
    exact ⟨e, q, v, hv.eraseRecord ht hr fun hi => hn (.inl hi)⟩

theorem Keeps.after (hc : c.IsSound) (hk : c.Keeps h) {calls : List Call}
    (hs : ∀ k ∈ calls, k.request.IsSound) (he : ∀ ev ∈ c.history calls, ev.written.IsStable) :
    (c.after calls).Keeps (h ++ c.history calls) := by
  induction calls generalizing c h
  case nil => rwa [history, List.append_nil]
  case cons k ks hi =>
    obtain ⟨hr, hs⟩ := List.forall_mem_cons.mp hs
    obtain ⟨hn, he⟩ := List.forall_mem_append.mp he
    rw [history, ← List.append_assoc]
    exact hi (hc.outcome hr) ((effect_of_call hc k hr).keeps hc hk hn) hs he

-- A settled record is a fixed point of the validator that the stored fields make, but for the order
-- of its members. Of addresses it is asked only that those written are their own normal forms.
theorem apply_data_of_settled {limits : PageLimits} {calls : List Call}
    (hs : ∀ k ∈ calls, k.request.IsSound)
    (he : ∀ ev ∈ history { limits } calls, ev.written.IsStable)
    (hl : Settled scope name id (history { limits } calls)) :
    ∃ e r v out,
      (after { limits } calls).tables.entity? scope name = .ok (some e) ∧
      (after { limits } calls).tables.record? scope name id = some r ∧
      Validator.generate e.fields = .ok v ∧
      v.apply .whole (.object r.data) = .ok out ∧
      r.data.keys.Nodup ∧ out.Perm r.data := by
  have hk : Keeps { limits } [] := fun _ _ _ hn => absurd (settled_iff.mp hn) (by simp)
  have ⟨e, r, v, hv⟩ := hk.after isSound_empty hs he scope name id hl
  have ⟨hc, _⟩ := (holds_empty limits).after isSound_empty hs
  have hn := Validator.nodup_names (hc.tables.accepted hv.entity) hv.made
  have ⟨out, ho, hp⟩ := hv.accepted.applyObject hn
  exact ⟨e, r, v, out, hv.entity, hv.record, hv.made, ho, hv.accepted.keys, hp⟩

def dated : List Call :=
  let title : Field.Source := .typed "title" "string" [("minLength", .int 2)]
  let start : Field.Source := .typed "start" "date" [("required", .bool true)]
  let open' : Field.Source := .typed "open" "boolean" [("defaultValue", .bool true)]
  [.numbered "0" (.define "home" "event" [title, start, open']),
   .numbered "1" (.create "home" "event"
     (.object [("start", .text "2024-03-01T00:30:00.5+01:00")])),
   .numbered "2" (.update "home" "event" "rec_1" (.object [("open", .null), ("title", .text "ab"),
     ("start", .text "2024-03-02")])),
   .numbered "3" (.update "home" "event" "rec_1" (.object [("title", .text "a")]))]

theorem apply_data_dated :
    Settled "home" "event" "rec_1" (history {} dated) ∧
    ∃ e r v out,
      (after {} dated).tables.entity? "home" "event" = .ok (some e) ∧
      (after {} dated).tables.record? "home" "event" "rec_1" = some r ∧
      Validator.generate e.fields = .ok v ∧
      v.apply .whole (.object r.data) = .ok out ∧
      r.data.keys.Nodup ∧ out.Perm r.data := by
  have hl : Settled "home" "event" "rec_1" (history {} dated) := by decide +kernel
  refine ⟨hl, apply_data_of_settled ?_ ?_ hl⟩
  case refine_1 =>
    simp only [dated, List.forall_mem_cons, Call.request_numbered, Request.IsSound]
    simp
  case refine_2 =>
    have ha : (history {} dated).all (·.written.hasNoAt) := by decide +kernel
    exact fun ev he => Document.isStable_of_hasNoAt (List.all_eq_true.mp ha ev he)

end Catalog

end EntityCatalog
