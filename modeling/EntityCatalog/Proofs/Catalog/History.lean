import EntityCatalog.Proofs.Catalog.Effect
import EntityCatalog.Proofs.Validation.Apply
import Mathlib.Data.List.Induction

namespace EntityCatalog

structure Memory where
  data : Document
  createdAt : String
  updatedAt : String

def RecordRow.memory (r : RecordRow) : Memory := ⟨r.data, r.createdAt, r.updatedAt⟩

def Memory.toDocument (m : Memory) (name id : String) : Document :=
  [("id", .text id), ("entity_type", .text name), ("data", .object m.data),
   ("created_at", .text m.createdAt), ("updated_at", .text m.updatedAt)]

section Record

variable (scope name id : String)

def Event.Resets : Event → Prop
  | .created s n i .. | .deleted s n i => s = scope ∧ n = name ∧ i = id
  | .dropped s n => s = scope ∧ n = name
  | _ => False

def Memory.after (m : Memory) : Event → Memory
  | .changed s n i changes at' =>
    if s = scope ∧ n = name ∧ i = id then ⟨m.data.override changes, m.createdAt, at'⟩ else m
  | _ => m

-- A history in which the record was created, and has lived on since.
inductive Live : List Event → Memory → Prop
  | intro (before : List Event) (clean : Document) (at' : String) (later : List Event) :
    (∀ ev ∈ later, ¬ev.Resets scope name id) →
    Live (before ++ .created scope name id clean at' :: later)
      (later.foldl (Memory.after scope name id) ⟨clean, at', at'⟩)

def Event.remember (m : Option Memory) : Event → Option Memory
  | .created s n i clean at' =>
    if s = scope ∧ n = name ∧ i = id then some ⟨clean, at', at'⟩ else m
  | .changed s n i changes at' => m.map (Memory.after scope name id · (.changed s n i changes at'))
  | .deleted s n i => if s = scope ∧ n = name ∧ i = id then none else m
  | .dropped s n => if s = scope ∧ n = name then none else m
  | .redefined .. => m

def recalled (h : List Event) : Option Memory := h.foldl (Event.remember scope name id) none

end Record

variable {scope name id : String} {h : List Event} {m : Memory} {ev : Event}

theorem recalled_append :
    recalled scope name id (h ++ [ev]) = ev.remember scope name id (recalled scope name id h) := by
  simp [recalled]

theorem Event.remember_of_not_resets (hr : ¬ev.Resets scope name id) {m : Option Memory} :
    ev.remember scope name id m = m.map (Memory.after scope name id · ev) := by
  cases ev <;> simp_all [Event.remember, Event.Resets, Memory.after]

theorem foldl_remember {later : List Event} (hl : ∀ ev ∈ later, ¬ev.Resets scope name id) :
    later.foldl (Event.remember scope name id) (some m) =
      some (later.foldl (Memory.after scope name id) m) := by
  induction later generalizing m
  case nil => rfl
  case cons ev later hi =>
    have ⟨he, hl⟩ := List.forall_mem_cons.mp hl
    simp only [List.foldl_cons, Event.remember_of_not_resets he, Option.map_some, hi hl]

theorem foldl_remember_none {later : List Event}
    (hl : ∀ clean at', .created scope name id clean at' ∉ later) :
    later.foldl (Event.remember scope name id) none = none := by
  induction later
  case nil => rfl
  case cons ev later hi =>
    have he : ev.remember scope name id none = none := by
      cases ev <;> simp only [Event.remember, Option.map_none, ite_self]
      case created s n i clean a =>
        refine if_neg ?_
        rintro ⟨rfl, rfl, rfl⟩
        exact hl clean a List.mem_cons_self
    rw [List.foldl_cons, he]
    exact hi fun clean a hm => hl clean a (List.mem_cons_of_mem _ hm)

theorem Live.append (hl : Live scope name id h m) (hr : ¬ev.Resets scope name id) :
    Live scope name id (h ++ [ev]) (m.after scope name id ev) := by
  cases hl
  case intro before clean a later hl =>
    have hl : ∀ ev' ∈ later ++ [ev], ¬ev'.Resets scope name id := by
      intro ev' hm
      rcases List.mem_append.mp hm with hm | hm
      case inl => exact hl ev' hm
      case inr => exact List.mem_singleton.mp hm ▸ hr
    simpa using Live.intro before clean a (later ++ [ev]) hl

-- A record is live if it is remembered: the one looks back for its creation, the other goes along.
theorem live_iff_recalled : Live scope name id h m ↔ recalled scope name id h = some m := by
  constructor
  case mp =>
    rintro ⟨before, clean, a, later, hl⟩
    simp only [recalled, List.foldl_append, List.foldl_cons, Event.remember, and_self, if_true]
    exact foldl_remember hl
  case mpr =>
    intro hm
    induction h using List.reverseRecOn generalizing m
    case nil => cases hm
    case append_singleton h ev hi =>
      rw [recalled_append] at hm
      -- Only the creation of the record itself leaves something after an event that resets it.
      by_cases hr : ev.Resets scope name id
      case neg =>
        rw [Event.remember_of_not_resets hr, Option.map_eq_some_iff] at hm
        have ⟨m', hm', he⟩ := hm
        exact he ▸ (hi hm').append hr
      case pos =>
        cases ev <;> simp only [Event.Resets] at hr <;>
          simp only [Event.remember, hr, and_self, if_true, Option.some.injEq, reduceCtorEq] at hm
        case created clean a =>
          obtain ⟨rfl, rfl, rfl⟩ := hr
          exact hm ▸ .intro h clean a [] (by simp)

theorem not_live_of_dropped {before later : List Event}
    (hl : ∀ clean at', .created scope name id clean at' ∉ later) :
    ¬Live scope name id (before ++ .dropped scope name :: later) m := by
  rw [live_iff_recalled, recalled, List.foldl_append, List.foldl_cons]
  simp only [Event.remember, and_self, if_true, foldl_remember_none hl, reduceCtorEq,
    not_false_eq_true]

namespace Tables.IsSound

variable {t t' : Tables} {s n i at' : String} {e : Entity} {r : RecordRow} {changes : Document}

theorem memory_insertRecord (ht : t.IsSound) (ht' : t'.IsSound) {clean : Document}
    (hi : t.insertRecord ⟨i, e.id, s, n, clean, at', at'⟩ = .ok t') :
    (t'.record? scope name id).map RecordRow.memory =
      (Event.created s n i clean at').remember scope name id
        ((t.record? scope name id).map RecordRow.memory) := by
  rw [ht.record?_insertRecord ht' hi]
  simp only [Event.remember]
  split <;> rfl

theorem memory_eraseEntity (ht : t.IsSound) (he : t.entity? s n = .ok (some e)) :
    ((t.eraseEntity e.id).record? scope name id).map RecordRow.memory =
      (Event.dropped s n).remember scope name id
        ((t.record? scope name id).map RecordRow.memory) := by
  have ⟨r, hr, ho, hs, hn⟩ := ht.entity?_eq_some_iff.mp he
  rw [← ho.id, ht.record?_eraseEntity hr, ho.scope, ho.name, hs, hn]
  simp only [Event.remember, eq_comm]
  split <;> rfl

-- Changes and deletions go by the identifier alone, and so must find the record that was asked for.

theorem memory_setData (ht : t.IsSound) (hr : t.record? s n i = some r)
    (hn : changes.keys.Nodup) :
    ((t.setData i (r.data.merge changes) at').record? scope name id).map RecordRow.memory =
      (Event.changed s n i changes at').remember scope name id
        ((t.record? scope name id).map RecordRow.memory) := by
  simp only [ht.record?_setData, Event.remember, Memory.after]
  by_cases hi : id = i
  case neg => simp [hi, Ne.symm hi, Function.comp_def]
  case pos =>
    subst hi
    cases hq : t.record? scope name id
    case none => simp
    case some q =>
      obtain ⟨rfl, rfl⟩ := ht.key_eq_of_record? hr hq
      cases hr.symm.trans hq
      simp [RecordRow.memory, Document.merge_eq_override hn]

theorem memory_eraseRecord (ht : t.IsSound) (hr : t.record? s n i = some r) :
    ((t.eraseRecord i).record? scope name id).map RecordRow.memory =
      (Event.deleted s n i).remember scope name id
        ((t.record? scope name id).map RecordRow.memory) := by
  simp only [ht.record?_eraseRecord, Event.remember]
  by_cases hi : id = i
  case neg => simp [hi, Ne.symm hi]
  case pos =>
    subst hi
    cases hq : t.record? scope name id
    case none => simp
    case some q =>
      have ⟨hs, hn⟩ := ht.key_eq_of_record? hr hq
      simp [hs, hn]

end Tables.IsSound

namespace Catalog

variable {c c' : Catalog} {scope : String} {ev : Option Event}

def Holds (c : Catalog) (h : List Event) : Prop :=
  ∀ scope name id, (c.tables.record? scope name id).map RecordRow.memory = recalled scope name id h

theorem Effect.holds (he : c.Effect scope ev c') (hc : c.IsSound) {h : List Event}
    (hh : c.Holds h) : c'.Holds (h ++ ev.toList) := by
  have ht := hc.tables
  have ht' := (he.isSound hc).tables
  intro s n i
  cases ev
  case none =>
    rw [Option.toList_none, List.append_nil, ← hh s n i]
    cases he
    case nothing => rfl
    case asked => rfl
    case defined hi => rw [(Tables.insertEntity_eq_ok_iff.mp hi).2]; rfl
  case some ev =>
    rw [Option.toList_some, recalled_append, ← hh s n i]
    cases he
    case redefined => rfl
    case dropped he => exact ht.memory_eraseEntity he
    case created hi _ => exact ht.memory_insertRecord ht' hi
    case changed he hg ha hr _ =>
      exact ht.memory_setData hr (Validator.nodup_keys_of_apply (ht.accepted he) hg ha)
    case deleted hr => exact ht.memory_eraseRecord hr

def after (c : Catalog) : List Call → Catalog
  | [] => c
  | k :: ks => after (k.outcome c).catalog ks

def history (c : Catalog) : List Call → List Event
  | [] => []
  | k :: ks => (k.event? c).toList ++ history (k.outcome c).catalog ks

theorem Holds.after (hc : c.IsSound) {h : List Event} (hh : c.Holds h) {calls : List Call}
    (hs : ∀ k ∈ calls, k.request.IsSound) :
    (c.after calls).IsSound ∧ (c.after calls).Holds (h ++ c.history calls) := by
  induction calls generalizing c h
  case nil => exact ⟨hc, by rwa [history, List.append_nil]⟩
  case cons k ks hi =>
    have ⟨hk, hs⟩ := List.forall_mem_cons.mp hs
    rw [history, ← List.append_assoc]
    exact hi (hc.outcome hk) ((effect_of_call hc k hk).holds hc hh) hs

theorem holds_empty (limits : PageLimits) : Holds { limits } [] := fun _ _ _ => rfl

section Told

variable {g : Grant} {scope name id : String} {fields : List Field.Source} {h : List Event}
  {m : Memory}

theorem Holds.live_iff (hh : c.Holds h) :
    Live scope name id h m ↔ ∃ r, c.tables.record? scope name id = some r ∧ r.memory = m := by
  rw [live_iff_recalled, ← hh, Option.map_eq_some_iff]

theorem IsSound.get_of_some (hc : c.IsSound) {r : RecordRow}
    (hr : c.tables.record? scope name id = some r) :
    c.get scope name id = .told c "get_record" (r.memory.toDocument name id) := by
  have ⟨e, he⟩ := hc.tables.exists_entity?_of_record? hr
  rcases hc.requireEntity_eq scope name with ⟨hn, _⟩ | ⟨e', _, hq, hs, hn⟩
  case inl => simp [he] at hn
  case inr =>
    rcases hc.requireRecord_eq id hs hn with ⟨hf, _⟩ | ⟨r', hf, hg, hi, hm⟩
    case inl => simp [hr] at hf
    case inr =>
      cases hr.symm.trans hf
      simp [get, hq, hg, bind, Except.bind, RecordRow.toDocument, RecordRow.memory,
        Memory.toDocument, hi, hm]

theorem IsSound.get_of_none (hc : c.IsSound) (hr : c.tables.record? scope name id = none) :
    ∃ e : CatalogError, e.code = "NOT_FOUND" ∧
      c.get scope name id = .failed c "get_record" (.rejected e) := by
  rcases hc.requireEntity_eq scope name with ⟨_, hq⟩ | ⟨e, _, hq, hs, hn⟩
  case inl => exact ⟨.entityNotFound scope name, rfl, by simp [get, hq, bind, Except.bind]⟩
  case inr =>
    rcases hc.requireRecord_eq id hs hn with ⟨_, hg⟩ | ⟨r', hf, _⟩
    case inl => exact ⟨.recordNotFound name id, rfl, by simp [get, hq, hg, bind, Except.bind]⟩
    case inr => simp [hr] at hf

theorem IsSound.data_of_drop (hc : c.IsSound) {r : Reply}
    (hr : (c.drop scope name).success? = some r) :
    r.data = [("name", .text name),
      ("records_deleted", .int (c.tables.recordsOf scope name).length)] := by
  unfold drop at hr
  rcases hc.requireEntity_eq scope name with ⟨_, hq⟩ | ⟨e, he, hq, _, hn⟩
  case inl => simp [hq] at hr
  case inr =>
    have ⟨s, hs, ho, hss, hsn⟩ := hc.tables.entity?_eq_some_iff.mp he
    have hl := hc.tables.recordCount_eq hs
    rw [ho.id, ho.scope, ho.name, hss, hsn] at hl
    simp only [hq, Outcome.success?_logged, Outcome.success?_told, Option.some.injEq] at hr
    rw [← hr, hl, hn]

end Told

structure Follows (c : Catalog) (h : List Event) : Prop where
  -- A live record is told with what it was created with and all later changes.
  kept : ∀ {scope name id m},
    Live scope name id h m →
    (c.get scope name id).answer =
      .ok { ok := true, action := "get_record", data := m.toDocument name id }
  -- All other records, and no others, are not found.
  gone : ∀ {scope name id},
    (∃ e : CatalogError,
      (c.get scope name id).answer = .ok (.rejected "get_record" e) ∧ e.code = "NOT_FOUND") ↔
        ¬∃ m, Live scope name id h m
  -- The deletion of an entity tells how many records of it are live.
  counted : ∀ {scope name r},
    (c.drop scope name).success? = some r →
    ∃ ids : List String, ids.Nodup ∧ (∀ id, id ∈ ids ↔ ∃ m, Live scope name id h m) ∧
      r.data = [("name", .text name), ("records_deleted", .int ids.length)]
  -- After the deletion of an entity there are no records under its name but those created since.
  emptied : ∀ {scope name before later},
    h = before ++ .dropped scope name :: later →
    (∀ id clean at', .created scope name id clean at' ∉ later) →
    c.tables.recordsOf scope name = []
  -- Other fields change no record.
  untouched : ∀ {g scope name fields},
    (c.redefine g scope name fields).catalog.tables.records = c.tables.records

theorem Holds.follows (hc : c.IsSound) {h : List Event} (hh : c.Holds h) : c.Follows h where
  kept := by
    intro scope name id m hl
    have ⟨r, hr, hm⟩ := hh.live_iff.mp hl
    rw [hc.get_of_some hr, hm]
    rfl
  gone := by
    intro scope name id
    cases hr : c.tables.record? scope name id
    case none =>
      have ⟨e, he, hg⟩ := hc.get_of_none hr
      simp only [hh.live_iff, hr, hg]
      exact iff_of_true ⟨e, rfl, he⟩ (by simp)
    case some r =>
      simp only [hh.live_iff, hr, hc.get_of_some hr]
      refine iff_of_false ?_ (by simp)
      rintro ⟨e, he, _⟩
      simp [Outcome.told, Reply.rejected] at he
  counted := by
    intro scope name r hr
    refine ⟨(c.tables.recordsOf scope name).map (·.id), ?_, fun id => ?_, ?_⟩
    case refine_1 => exact hc.tables.ids.sublist (List.Sublist.map _ List.filter_sublist)
    case refine_2 =>
      simp only [hh.live_iff, hc.tables.record?_eq_some_iff, Tables.recordsOf, List.mem_map,
        List.mem_filter, Bool.and_eq_true, beq_iff_eq]
      constructor
      case mp =>
        rintro ⟨q, ⟨hq, hs, hn⟩, hi⟩
        exact ⟨q.memory, q, ⟨hq, hs, hn, hi⟩, rfl⟩
      case mpr =>
        rintro ⟨_, q, ⟨hq, hs, hn, hi⟩, _⟩
        exact ⟨q, ⟨hq, hs, hn⟩, hi⟩
    case refine_3 => rw [hc.data_of_drop hr, List.length_map]
  emptied := by
    intro scope name before later he hl
    subst he
    refine List.eq_nil_iff_forall_not_mem.mpr fun q hq => ?_
    refine not_live_of_dropped (hl q.id) (hh.live_iff.mpr ⟨q, ?_, rfl⟩)
    simpa [hc.tables.record?_eq_some_iff, Tables.recordsOf] using hq
  untouched := by
    intro g scope name fields
    unfold redefine
    dsimp only
    split
    case h_1 => simp
    case h_2 =>
      split
      case h_1 => simp
      case h_2 => simp [Tables.setFields]

-- Whatever is asked of a catalog, it follows the history of what was done to its records.
theorem follows_history {limits : PageLimits} {calls : List Call}
    (hs : ∀ k ∈ calls, k.request.IsSound) :
    (after { limits } calls).Follows (history { limits } calls) := by
  have ⟨hc, hh⟩ := (holds_empty limits).after isSound_empty hs
  exact hh.follows hc

def rewritten : List Call :=
  let title : Field.Source := .typed "title" "string" [("required", .bool true)]
  let done : Field.Source := .typed "done" "boolean" [("defaultValue", .bool false)]
  [.numbered "0" (.define "home" "note" [title, done]),
   .numbered "1" (.define "home" "task" [title]),
   .numbered "2" (.create "home" "note" (.object [("title", .text "a")])),
   .numbered "3" (.create "home" "task" (.object [("title", .text "b")])),
   .numbered "4" (.redefine "home" "note" [title]),
   .numbered "5" (.update "home" "task" "rec_2" (.object [("title", .text "c")])),
   .numbered "6" (.update "home" "note" "rec_2" (.object [("title", .text "d")])),
   .numbered "7" (.drop "home" "task"),
   .numbered "8" (.define "home" "task" [title])]

theorem follows_rewritten :
    (after {} rewritten).Follows (history {} rewritten) ∧
      (∃ m, Live "home" "note" "rec_2" (history {} rewritten) m) ∧
      ¬∃ m, Live "home" "task" "rec_3" (history {} rewritten) m := by
  refine ⟨follows_history ?_, ?_, ?_⟩
  case refine_1 =>
    simp only [rewritten, List.forall_mem_cons, Call.request_numbered, Request.IsSound]
    simp
  case refine_2 =>
    have hm : (recalled "home" "note" "rec_2" (history {} rewritten)).isSome := by decide +kernel
    have ⟨m, hm⟩ := Option.isSome_iff_exists.mp hm
    exact ⟨m, live_iff_recalled.mpr hm⟩
  case refine_3 =>
    have hm : (recalled "home" "task" "rec_3" (history {} rewritten)).isNone := by decide +kernel
    simp [live_iff_recalled, Option.isNone_iff_eq_none.mp hm]

end Catalog

end EntityCatalog
