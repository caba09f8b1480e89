import EntityCatalog.Listing
import EntityCatalog.Proofs.Store.Evaluation
import EntityCatalog.Proofs.Store.Integrity
import EntityCatalog.Proofs.Validation.Fixpoint

namespace EntityCatalog

theorem Value.allFinite_iff {d : Document} : Value.allFinite d ↔ ∀ m ∈ d, m.2.isFinite := by
  induction d
  case nil => simp [Value.allFinite]
  case cons m d hi => simp [Value.allFinite, hi]

namespace Document

variable {d changes : Document} {key : String} {v : Value}

theorem allFinite_set (hd : Value.allFinite d) (hv : v.isFinite) :
    Value.allFinite (d.set key v) := by
  rw [Value.allFinite_iff] at hd ⊢
  intro m hm
  unfold set at hm
  split at hm
  case isTrue =>
    have ⟨n, hn, he⟩ := List.mem_map.mp hm
    split at he
    case isTrue => exact he ▸ hv
    case isFalse => exact he ▸ hd n hn
  case isFalse =>
    rcases List.mem_append.mp hm with hm | hm
    case inl => exact hd m hm
    case inr => exact List.mem_singleton.mp hm ▸ hv

theorem allFinite_merge (hd : Value.allFinite d) (hc : Value.allFinite changes) :
    Value.allFinite (d.merge changes) := by
  induction changes generalizing d
  case nil => exact hd
  case cons m changes hi =>
    have ⟨hm, hc⟩ := Bool.and_eq_true_iff.mp hc
    exact hi (allFinite_set hd hm) hc

end Document

theorem TextBounds.isFinite_of_check {b : TextBounds} {short long : Int → ValueFault} {s : String}
    {w : Value} (h : b.check short long s = .taken w) : w.isFinite :=
  eq_of_check h ▸ rfl

theorem ValueRule.isFinite_of_check {r : ValueRule} {v w : Value} (h : r.check v = .taken w) :
    w.isFinite := by
  cases r
  case text =>
    cases v <;> simp only [check, reduceCtorEq] at h
    case text => exact TextBounds.isFinite_of_check h
  case number =>
    have hw := eq_of_checkNumber h
    subst hw
    cases w <;> simp only [check, checkNumber, reduceCtorEq] at h
    case int => rfl
    case real x =>
      split at h
      case isTrue hx => exact hx
      case isFalse => cases h
  case truth =>
    simp only [check] at h
    split at h <;> cases h
    case isTrue hb => cases v <;> simp_all [Value.isBool, Value.isFinite]
  case email =>
    cases v <;> simp only [check, reduceCtorEq] at h
    case text =>
      split at h
      case h_1 => exact TextBounds.isFinite_of_check h
      case h_2 => cases h
  case url =>
    cases v <;> simp only [check, reduceCtorEq] at h
    case text =>
      split at h
      case isTrue => exact TextBounds.isFinite_of_check h
      case isFalse => cases h
  case date =>
    simp only [check, checkDate] at h
    split at h <;> try contradiction
    split at h <;> cases h
    rfl

theorem FieldRule.isFinite_of_check {r : FieldRule} {v w : Value} (h : r.check v = .taken w) :
    w.isFinite := by
  unfold check at h
  split at h
  case isTrue => cases h; rfl
  case isFalse => exact ValueRule.isFinite_of_check h

namespace Validator

variable {v : Validator} {extent : Extent} {data : Value} {out : Document}

theorem allFinite_of_apply (h : v.apply extent data = .ok out) : Value.allFinite out := by
  have ⟨d, _, h⟩ := apply_eq_ok_iff.mp h
  rw [Value.allFinite_iff]
  intro ⟨key, w⟩ hm
  have ⟨r, _, _, ht⟩ := (mem_of_applyObject h).mp hm
  have ⟨_, _, hc⟩ := FieldRule.taken?_eq_some_iff.mp ht
  exact FieldRule.isFinite_of_check hc

end Validator

theorem Listing.pageInfo_error_iff {total : Int} {page : Option Page} :
    (∃ fault, pageInfo total page = .error fault) ↔
      ∃ p fault, page = some p ∧ pageCount total p.limit = .error fault := by
  cases page
  case none => simp [pageInfo]
  case some p =>
    cases hc : pageCount total p.limit <;> simp [pageInfo, hc, bind, Except.bind]

namespace Tables

def IsFinite (t : Tables) : Prop := ∀ q ∈ t.records, Value.allFinite q.data

variable {t t' : Tables} {q : RecordRow} {id a : String} {data : Document}

theorem IsFinite.insertRecord (h : t.IsFinite) (hq : Value.allFinite q.data)
    (hi : t.insertRecord q = .ok t') : t'.IsFinite := by
  intro p hp
  rw [(insertRecord_eq_ok_iff.mp hi).2] at hp
  rcases List.mem_append.mp hp with hp | hp
  case inl => exact h p hp
  case inr => exact List.mem_singleton.mp hp ▸ hq

theorem IsFinite.setData (h : t.IsFinite) (hd : Value.allFinite data) :
    (t.setData id data a).IsFinite := by
  intro p hp
  rcases mem_setData.mp hp with ⟨hp, _⟩ | ⟨q, _, _, rfl⟩
  case inl => exact h p hp
  case inr => exact hd

variable {rows : List RecordRow} {filter : Option Predicate} {sort : Option SortKey}
  {page : Option Page} {scope name : String} {q : Query} {cl : Clause}

theorem prepare_of_clauseOf (h : clauseOf filter = .ok cl) :
    prepare filter = if cl.isTooHigh then .error .unreadable else .ok cl := by
  rw [prepare, h]
  cases filter
  case none => cases h; rfl
  case some p =>
    cases hc : p.clause? <;> simp only [clauseOf, hc, reduceCtorEq] at h
    case some c =>
      split at h <;> cases h
      simp [hc]

theorem canSort_iff (h : ∀ r ∈ rows, Value.allFinite r.data) :
    canSort rows sort ↔ ∀ r ∈ rows, ∀ k ∈ sort, isPath k.field := by
  cases sort
  case none => simp [canSort]
  case some k =>
    simp only [canSort, Document.canRead, Option.all_some, List.all_eq_true, Bool.and_eq_true,
      Option.mem_some_iff, forall_eq']
    exact ⟨fun hr r hm => (hr r hm).1, fun hr r hm => ⟨hr r hm, h r hm⟩⟩

def selection (t : Tables) (scope name : String) (cl : Clause) : List RecordRow :=
  (t.recordsOf scope name).filter fun r => cl.selects r.data

-- What a store cannot do for a query, and what cannot be told of its answer.
inductive IsOvertaxed (t : Tables) (scope name : String) (cl : Clause) (q : Query) : Prop
  | height : cl.isTooHigh → IsOvertaxed t scope name cl q
  -- A page is given by numbers that are no words.
  | page {p} : q.page = some p → canPage p = false → IsOvertaxed t scope name cl q
  -- A record is to be read at a path that cannot be written, or compared with too long a pattern.
  | filter {r} :
    r ∈ t.recordsOf scope name → cl.Stumbles r.data false → IsOvertaxed t scope name cl q
  | sort {r k} :
    r ∈ t.selection scope name cl → q.sort = some k → isPath k.field = false →
    IsOvertaxed t scope name cl q
  -- There are more pages than a number can tell.
  | count {p fault} :
    q.page = some p →
    Listing.pageCount (t.selection scope name cl).length p.limit = .error fault →
    IsOvertaxed t scope name cl q

theorem isOvertaxed_iff (h : t.IsFinite) :
    t.IsOvertaxed scope name cl q ↔
      cl.isTooHigh ∨ ¬q.page.all canPage ∨
        (∃ r ∈ t.recordsOf scope name, cl.Stumbles r.data false) ∨
        ¬canSort (t.selection scope name cl) q.sort ∨
        ∃ fault, Listing.pageInfo (t.selection scope name cl).length q.page = .error fault := by
  have hs : ∀ r ∈ t.selection scope name cl, Value.allFinite r.data :=
    fun r hs => h r (List.mem_of_mem_filter (List.mem_of_mem_filter hs))
  rw [canSort_iff hs, Listing.pageInfo_error_iff]
  constructor
  case mp =>
    intro ho
    cases ho
    case height hh => exact .inl hh
    case page hp hn => exact .inr (.inl (by simp [hp, hn]))
    case filter hm hn => exact .inr (.inr (.inl ⟨_, hm, hn⟩))
    case sort hm hk hn =>
      exact .inr (.inr (.inr (.inl fun hr => by simp [hr _ hm _ hk] at hn)))
    case count p fault hp hn => exact .inr (.inr (.inr (.inr ⟨p, fault, hp, hn⟩)))
  case mpr =>
    simp only [Classical.not_forall]
    rintro (hh | hp | ⟨r, hm, hn⟩ | ⟨r, hm, k, hk, hn⟩ | ⟨p, fault, hp, hn⟩)
    case inl => exact .height hh
    case inr.inl =>
      cases hq : q.page <;> simp [hq] at hp
      case some p => exact .page hq hp
    case inr.inr.inl => exact .filter hm hn
    case inr.inr.inr.inl => exact .sort hm hk (by simpa using hn)
    case inr.inr.inr.inr => exact .count hp hn

-- Queries that differ in the page alone show parts of one list.
theorem find_eq (hc : prepare filter = .ok cl) :
    t.find scope name filter sort page =
      if !page.all canPage then .error .overflow
      else if ∃ r ∈ t.recordsOf scope name, cl.Stumbles r.data false then .error .unreadable
      else if canSort (t.selection scope name cl) sort then
        .ok (pageOf page ((t.selection scope name cl).mergeSort (RecordRow.inOrder sort)))
      else .error .unreadable := by
  have hs : selected cl (t.recordsOf scope name) = _ := selected_eq
  unfold find selection
  by_cases hr : ∃ r ∈ t.recordsOf scope name, cl.Stumbles r.data false
  case pos => simp only [hc, hs, if_pos hr, bind, Except.bind]
  case neg => simp only [hc, hs, if_neg hr, bind, Except.bind]

theorem count_eq (hc : prepare filter = .ok cl) :
    t.count scope name filter =
      if ∃ r ∈ t.recordsOf scope name, cl.Stumbles r.data false then .error .unreadable
      else .ok (t.selection scope name cl).length := by
  have hs : selected cl (t.recordsOf scope name) = _ := selected_eq
  unfold count selection
  by_cases hr : ∃ r ∈ t.recordsOf scope name, cl.Stumbles r.data false
  case pos => simp only [hc, hs, if_pos hr, bind, Except.bind]
  case neg => simp only [hc, hs, if_neg hr, bind, Except.bind, pure, Except.pure]

end Tables

end EntityCatalog
