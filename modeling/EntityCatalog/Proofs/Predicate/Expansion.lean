import EntityCatalog.Predicate.Basic

namespace EntityCatalog.Predicate

variable {d : Document} {path : String} {a : Value} {vs : List Value} {ps : List Predicate}

theorem holdsAll_eq : holdsAll d ps = ps.all (·.holds d) := by
  induction ps
  case nil => rfl
  case cons p ps hi => rw [holdsAll, hi, List.all_cons]

theorem holdsAny_eq : holdsAny d ps = ps.any (·.holds d) := by
  induction ps
  case nil => rfl
  case cons p ps hi => rw [holdsAny, hi, List.any_cons]

theorem holds_any_equals :
    (any (vs.map (equals path))).holds d = (anyOf path vs).holds d := by
  rw [holds, holdsAny_eq, List.any_map, Function.comp_def]
  cases h : d.present? path
  case none => simp [holds, h]
  case some a => simp [holds, h]

theorem holds_all_notEquals_of_present (h : d.present? path = some a) :
    (all (vs.map (notEquals path))).holds d = (noneOf path vs).holds d := by
  rw [holds, holdsAll_eq, List.all_map, Function.comp_def]
  simp [holds, h, List.all_eq_not_any_not]

theorem holds_all_notEquals_of_absent (h : d.present? path = none) :
    (all (vs.map (notEquals path))).holds d = vs.isEmpty := by
  rw [holds, holdsAll_eq, List.all_map, Function.comp_def]
  cases vs
  case nil => rfl
  case cons v vs => simp [holds, h]

theorem holds_noneOf_of_absent (h : d.present? path = none) :
    (noneOf path vs).holds d = false := by
  simp [holds, h]

-- A list predicate and its tree agree on every document, but for an empty list of values that are
-- not asked for and a document without the member.
theorem holds_expand? :
    (∃ q, (anyOf path vs).expand? = some q ∧ q.holds d = (anyOf path vs).holds d) ∧
    ∃ q, (noneOf path vs).expand? = some q ∧
      (q.holds d = (noneOf path vs).holds d ↔ vs ≠ [] ∨ d.present? path ≠ none) := by
  refine ⟨⟨_, rfl, holds_any_equals⟩, ⟨_, rfl, ?_⟩⟩
  cases h : d.present? path
  case none =>
    rw [holds_all_notEquals_of_absent h, holds_noneOf_of_absent h]
    simp
  case some a =>
    rw [holds_all_notEquals_of_present h]
    simp

theorem holds_expand?_ne :
    ∃ q, (noneOf "s" []).expand? = some q ∧ q.holds [] ∧ ¬(noneOf "s" []).holds [] :=
  ⟨.all [], rfl, rfl, by decide⟩

end EntityCatalog.Predicate
