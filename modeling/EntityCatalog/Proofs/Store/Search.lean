import EntityCatalog.Proofs.Query
import EntityCatalog.Proofs.Store.Cell
import EntityCatalog.Proofs.Text.Context
import EntityCatalog.Proofs.Value.Same
import Mathlib

namespace EntityCatalog

open Text

variable {part : Part} {s t cs a b : List Char}

theorem Like.fold_lower : fold (lower cs) = lower cs := by
  refine (List.map_congr_left fun c hc => ?_).trans (List.map_id _)
  exact Char.toLower_eq_of_not_isUpper (not_isUpper_of_mem_lowerAux hc)

-- Text in lower case that another text has, but for the case of its letters of ASCII, stays what it
-- is when that text is lower-cased, whatever stands around it.
theorem Part.holds_lower (ht : ∀ c ∈ t, IsSmall c) (h : part.holds t (Like.fold s)) :
    part.holds t (lower s) := by
  rw [Part.holds_iff] at h ⊢
  cases part
  case start =>
    have ⟨w, h⟩ := h
    obtain ⟨y, z, rfl, rfl, _⟩ := Like.fold_eq_append_iff.mp h.symm
    exact ⟨_, (lowerAux_append_of_isSmall (List.forall_mem_map.mp ht)).symm⟩
  case «end» =>
    have ⟨w, h⟩ := h
    obtain ⟨u, y, rfl, _, rfl⟩ := Like.fold_eq_append_iff.mp h.symm
    have ⟨p, hp⟩ := exists_lowerAux_append [] u y
    exact ⟨p, by rw [lower, hp, lowerAux_of_isSmall (List.forall_mem_map.mp ht)]; rfl⟩
  case anywhere =>
    have ⟨w, w', h⟩ := h
    obtain ⟨x, z, rfl, hx, _⟩ := Like.fold_eq_append_iff.mp h.symm
    obtain ⟨u, y, rfl, _, rfl⟩ := Like.fold_eq_append_iff.mp hx
    have ⟨p, hp⟩ := exists_lowerAux_append [] u (y ++ z)
    rw [lowerAux_append_of_isSmall (List.forall_mem_map.mp ht), ← List.append_assoc] at hp
    exact ⟨p, _, by rw [List.append_assoc, lower, hp]; rfl⟩

theorem Part.isInfix_of_holds (h : part.holds s t) : s <:+: t := by
  rw [Part.holds_iff] at h
  cases part
  case anywhere => exact h
  case start => exact h.isInfix
  case «end» => exact h.isInfix

-- What is left of a pattern for a text that is cut off: the wildcard at its end is lost as well.
def Part.holdsCut (part : Part) (short long : List Char) : Bool :=
  match part with
  | .start => short == long
  | .anywhere | .end => Part.end.holds short long

namespace Predicate

theorem takeWhile_pattern_append (h : '\x00' ∉ a) :
    (Like.pattern part (a ++ '\x00' :: b)).takeWhile (·.toNat ≠ 0) =
      match part with
      | .start => Like.escape a
      | .anywhere | .end => Like.pattern .end a := by
  have he : Like.escape (a ++ '\x00' :: b) = Like.escape a ++ '\x00' :: Like.escape b := by
    rw [Like.escape_append, Like.escape_cons]; rfl
  have hs : '\x00' ∉ Like.escape a := fun hm => (Like.mem_escape hm).elim (fun e => by cases e) h
  have hp : '\x00' ∉ Like.pattern .end a := Like.nul_not_mem_pattern h
  cases part <;> simp only [Like.pattern, he, List.append_assoc, List.cons_append]
  case start => exact Cell.takeWhile_append_nul hs
  all_goals exact Cell.takeWhile_append_nul hp

theorem accepts_takeWhile_pattern (h : '\x00' ∉ a) :
    Like.accepts ((Like.pattern part (a ++ '\x00' :: b)).takeWhile (·.toNat ≠ 0)) s =
      part.holdsCut (Like.fold a) (Like.fold s) := by
  rw [takeWhile_pattern_append h, Bool.eq_iff_iff]
  cases part
  case start => simp [Part.holdsCut, Like.accepts_escape]
  all_goals simp [Part.holdsCut, Like.accepts_pattern_eq]

section Clauses

variable {d : Document} {path v : String}

theorem selects_likeClause_iff (hp : isPlainName path) (hd : (Value.object d).IsPlain)
    (hn : ∀ s, d.get? path = some (.text s) → '\x00' ∉ s.toList) :
    (likeClause part path (.text v)).selects d ↔ ∃ s, d.get? path = some (.text s) ∧
      Like.accepts ((Like.pattern part (lower v.toList)).takeWhile (·.toNat ≠ 0))
        (Like.fold s.toList) := by
  rw [likeClause, Clause.selects_allOf_iff]
  simp only [List.forall_mem_cons, List.not_mem_nil, false_imp_iff, implies_true, and_true,
    Clause.selects_iff, Clause.truth, Document.kind?, Document.cell, Value.display,
    Document.labelled?_of_plain hp, searchPattern_eq]
  cases hg : d.get? path
  case none => simp
  case some a =>
    have ha := Value.isPlain_of_get? hd hg
    cases a
    case text s =>
      simp [Value.kind, Cell.ofValue, Cell.beforeNul_eq (Cell.all_ne_zero_iff.mpr (hn s hg))]
    case date | moment => cases ha
    all_goals simp [Value.kind]

theorem holds_contains_iff : (contains part path (.text v)).holds d ↔
    ∃ s, d.get? path = some (.text s) ∧ part.holds (lower v.toList) (lower s.toList) := by
  rw [holds, Document.any_present?_iff]
  simp only [textHas_iff]
  constructor
  case mp =>
    rintro ⟨_, hg, _, s, rfl, h⟩
    exact ⟨s, hg, h⟩
  case mpr =>
    rintro ⟨s, hg, h⟩
    exact ⟨_, hg, by simp, s, rfl, h⟩

theorem clauseOf_contains :
    Tables.clauseOf (some (.contains part path (.text v))) =
      .ok (likeClause part path (.text v)) := by
  have ⟨c, hc, hv⟩ : (Predicate.contains part path (.text v)).IsTaken := .contains
  cases hc
  simp [Tables.clauseOf, clause?, List.findSome?_eq_none_iff.mpr hv]

theorem selects_contains_of_nul_not_mem (hp : isPlainName path) (hd : (Value.object d).IsPlain)
    (hn : ∀ s, d.get? path = some (.text s) → '\x00' ∉ s.toList) (hv : '\x00' ∉ v.toList)
    (h : (likeClause part path (.text v)).selects d) : (contains part path (.text v)).holds d := by
  have ⟨s, hg, ha⟩ := (selects_likeClause_iff hp hd hn).mp h
  rw [Cell.takeWhile_of_nul_not_mem (Like.nul_not_mem_pattern (nul_not_mem_lower hv)),
    Like.accepts_pattern_eq, Like.fold_lower, Like.fold_fold] at ha
  exact holds_contains_iff.mpr ⟨s, hg, Part.holds_lower (fun _ => isSmall_of_mem_lowerAux) ha⟩

theorem not_holds_contains_of_nul_mem (hn : ∀ s, d.get? path = some (.text s) → '\x00' ∉ s.toList)
    (hv : '\x00' ∈ lower v.toList) : ¬(contains part path (.text v)).holds d := by
  rw [holds_contains_iff]
  rintro ⟨s, hg, h⟩
  have hm : '\x00' ∈ lower s.toList := (Part.isInfix_of_holds h).subset hv
  exact nul_not_mem_lower (hn s hg) hm

-- A search for a text finds nothing in the store that the predicate does not hold of, as long as
-- there is no NUL in that text. If there is one, the predicate holds of no document, and the store
-- finds those whose text ends in what stands before it, or is just that if it has to begin with it.
theorem clauseOf_contains_sound (hp : isPlainName path) (hd : (Value.object d).IsPlain)
    (hn : ∀ s, d.get? path = some (.text s) → '\x00' ∉ s.toList) :
    ∃ c, Tables.clauseOf (some (.contains part path (.text v))) = .ok c ∧
      ('\x00' ∉ v.toList → c.selects d → (contains part path (.text v)).holds d) ∧
      ∀ a b, v.toList = a ++ '\x00' :: b → '\x00' ∉ a →
        ¬(contains part path (.text v)).holds d ∧
        (c.selects d ↔ ∃ s, d.get? path = some (.text s) ∧
          part.holdsCut (lower a) (Like.fold s.toList)) := by
  refine ⟨likeClause part path (.text v), clauseOf_contains,
    selects_contains_of_nul_not_mem hp hd hn, fun a b hv ha => ?_⟩
  have hl : lower v.toList = lower a ++ '\x00' :: lower b := by
    rw [hv, isNeutral_nul.lower_append]
  refine ⟨not_holds_contains_of_nul_mem hn (by simp [hl]), ?_⟩
  rw [selects_likeClause_iff hp hd hn]
  simp only [hl, accepts_takeWhile_pattern (nul_not_mem_lower ha), Like.fold_lower,
    Like.fold_fold]

theorem clauseOf_contains_sound_kelvin :
    ∃ c, Tables.clauseOf (some (.contains .end "t" (.text "5% \u212a"))) = .ok c ∧
      c.selects [("t", .text "at 5% K")] ∧
      (Predicate.contains .end "t" (.text "5% \u212a")).holds [("t", .text "at 5% K")] := by
  have ⟨c, hc, hs, _⟩ := @clauseOf_contains_sound .end [("t", .text "at 5% K")] "t" "5% \u212a"
    (by decide) rfl (by rintro s hs; cases hs; decide)
  have hsel : c.selects [("t", .text "at 5% K")] := by
    cases hc.symm.trans clauseOf_contains
    decide +kernel
  exact ⟨c, hc, hsel, hs (by decide) hsel⟩

theorem clauseOf_contains_unsound :
    ∃ c, Tables.clauseOf (some (.contains .anywhere "t" (.text "x\x00"))) = .ok c ∧
      c.selects [("t", .text "x")] ∧
      ¬(Predicate.contains .anywhere "t" (.text "x\x00")).holds [("t", .text "x")] :=
  ⟨_, clauseOf_contains, by decide +kernel, by decide +kernel⟩

end Clauses

end Predicate

end EntityCatalog
