import EntityCatalog.Store.Like
import EntityCatalog.Predicate.Basic
import Mathlib

namespace EntityCatalog.Like

variable {c p : Char} {cs ps s t : List Char}

def IsSpecial (c : Char) : Prop := c = '\\' ∨ c = '%' ∨ c = '_'

theorem escapeChar_of_special (h : IsSpecial c) : escapeChar c = ['\\', c] :=
  if_pos h

theorem escapeChar_of_not_special (h : ¬IsSpecial c) : escapeChar c = [c] :=
  if_neg h

theorem accepts_nil : accepts [] s = s.isEmpty := by
  cases s <;> rfl

theorem accepts_escaped_cons : accepts ('\\' :: p :: ps) (c :: cs) =
    (foldChar p == foldChar c && accepts ps cs) := by
  simp [accepts]

theorem accepts_cons (h : ¬IsSpecial p) :
    accepts (p :: ps) (c :: cs) = (foldChar p == foldChar c && accepts ps cs) := by
  simp only [IsSpecial, not_or] at h
  rw [accepts] <;> simp_all

theorem accepts_cons_nil (h : ¬IsSpecial p) : accepts (p :: ps) [] = false := by
  simp only [IsSpecial, not_or] at h
  rw [accepts] <;> simp_all

-- Whether it is escaped or not, the pattern of a character takes one character away.
theorem accepts_escapeChar_cons :
    accepts (escapeChar p ++ ps) (c :: cs) = (foldChar p == foldChar c && accepts ps cs) := by
  by_cases h : IsSpecial p
  case pos => simp [escapeChar_of_special h, accepts_escaped_cons]
  case neg => simp [escapeChar_of_not_special h, accepts_cons h]

theorem accepts_escapeChar_nil : accepts (escapeChar p ++ ps) [] = false := by
  by_cases h : IsSpecial p
  case pos => simp [escapeChar_of_special h, accepts]
  case neg => simp [escapeChar_of_not_special h, accepts_cons_nil h]

theorem escape_cons : escape (c :: t) = escapeChar c ++ escape t :=
  List.flatMap_cons

theorem accepts_escape_append_iff : accepts (escape t ++ ps) s ↔
    ∃ u v, s = u ++ v ∧ fold u = fold t ∧ accepts ps v := by
  induction t generalizing s
  case nil =>
    have h (u : List Char) : fold u = fold [] ↔ u = [] := by simp [fold]
    simp [escape, h]
  case cons p t hi =>
    rw [escape_cons, List.append_assoc]
    cases s
    case nil => simp [accepts_escapeChar_nil, fold]
    case cons c cs =>
      simp only [accepts_escapeChar_cons, Bool.and_eq_true, beq_iff_eq, hi]
      constructor
      case mp =>
        intro ⟨hc, u, v, hs, hu, hv⟩
        exact ⟨c :: u, v, by simp [hs], by simp [fold, hc] at hu ⊢; exact hu, hv⟩
      case mpr =>
        intro ⟨u, v, hs, hu, hv⟩
        cases u
        case nil => simp [fold] at hu
        case cons d u =>
          simp only [List.cons_append, List.cons.injEq] at hs
          simp only [fold, List.map_cons, List.cons.injEq] at hu
          exact ⟨hs.1 ▸ hu.1.symm, u, v, hs.2, hu.2, hv⟩

theorem anyRest_iff {test : List Char → Bool} :
    anyRest test s ↔ ∃ u v, s = u ++ v ∧ test v := by
  induction s
  case nil => simp [anyRest, and_assoc]
  case cons c cs hi =>
    simp only [anyRest, Bool.or_eq_true, hi]
    constructor
    case mp =>
      rintro (h | ⟨u, v, hs, h⟩)
      · exact ⟨[], c :: cs, rfl, h⟩
      · exact ⟨c :: u, v, by simp [hs], h⟩
    case mpr =>
      intro ⟨u, v, hs, h⟩
      cases u
      case nil => exact .inl (by simp_all)
      case cons d u => exact .inr ⟨u, v, by simp_all, h⟩

theorem accepts_percent_iff : accepts ('%' :: ps) s ↔ ∃ u v, s = u ++ v ∧ accepts ps v := by
  rw [accepts]; exact anyRest_iff

theorem accepts_percent : accepts ['%'] s :=
  accepts_percent_iff.mpr ⟨s, [], by simp, rfl⟩

theorem fold_append : fold (s ++ t) = fold s ++ fold t :=
  List.map_append

theorem fold_fold : fold (fold t) = fold t := by
  simp [fold, foldChar, Char.toLower_toLower_eq_toLower]

theorem fold_eq_append_iff :
    fold s = t ++ cs ↔ ∃ u v, s = u ++ v ∧ fold u = t ∧ fold v = cs :=
  List.map_eq_append_iff

theorem toLower_eq_iff_of_not_alpha (hp : ¬p.isAlpha) : c.toLower = p ↔ c = p := by
  have hl : ¬p.isLower ∧ ¬p.isUpper := by simpa [Char.isAlpha, and_comm] using hp
  constructor
  case mp =>
    rintro rfl
    by_cases hu : c.isUpper
    case pos => simp [Char.isAlpha, hu] at hl
    case neg => exact (Char.toLower_eq_of_not_isUpper hu).symm
  case mpr =>
    rintro rfl
    exact Char.toLower_eq_of_not_isUpper hl.2

theorem mem_escape (h : c ∈ escape t) : c = '\\' ∨ c ∈ t := by
  have ⟨p, hp, hc⟩ := List.mem_flatMap.mp h
  by_cases hs : IsSpecial p
  case pos =>
    simp only [escapeChar_of_special hs, List.mem_cons, List.not_mem_nil, or_false] at hc
    rcases hc with rfl | rfl
    · exact .inl rfl
    · exact .inr hp
  case neg =>
    simp only [escapeChar_of_not_special hs, List.mem_cons, List.not_mem_nil, or_false] at hc
    exact .inr (hc ▸ hp)

-- The pattern of the texts that have a text as a part.
def pattern (part : Part) (t : List Char) : List Char :=
  match part with
  | .anywhere => '%' :: (escape t ++ ['%'])
  | .start => escape t ++ ['%']
  | .end => '%' :: escape t

theorem mem_pattern {part : Part} (h : c ∈ pattern part t) : c = '%' ∨ c = '\\' ∨ c ∈ t := by
  cases part <;> simp [pattern] at h <;> grind [mem_escape]

theorem nul_not_mem_pattern {part : Part} (h : '\x00' ∉ t) : '\x00' ∉ pattern part t := by
  intro hm
  rcases mem_pattern hm with hc | hc | hc
  case inl | inr.inl => cases hc
  case inr.inr => exact h hc

theorem accepts_pattern_start : accepts (pattern .start t) s ↔ fold t <+: fold s := by
  simp only [pattern, accepts_escape_append_iff, accepts_percent, and_true]
  constructor
  case mp =>
    intro ⟨u, v, hs, hu⟩
    exact ⟨fold v, by rw [hs, fold_append, hu]⟩
  case mpr =>
    intro ⟨v, hv⟩
    have ⟨u, w, hs, hu, _⟩ := fold_eq_append_iff.mp hv.symm
    exact ⟨u, w, hs, hu⟩

theorem accepts_escape : accepts (escape t) s ↔ fold t = fold s := by
  have h : accepts (escape t ++ []) s ↔ _ := accepts_escape_append_iff
  simp only [List.append_nil, accepts_nil, List.isEmpty_iff] at h
  rw [h]
  constructor
  case mp =>
    intro ⟨u, v, hs, hu, hv⟩
    rw [hs, hv, List.append_nil, hu]
  case mpr => exact fun h => ⟨s, [], by simp, h.symm, rfl⟩

theorem accepts_pattern_end : accepts (pattern .end t) s ↔ fold t <:+ fold s := by
  simp only [pattern, accepts_percent_iff, accepts_escape]
  constructor
  case mp =>
    intro ⟨u, v, hs, hv⟩
    exact ⟨fold u, by rw [hs, fold_append, hv]⟩
  case mpr =>
    intro ⟨u, hu⟩
    have ⟨a, b, hs, _, hb⟩ := fold_eq_append_iff.mp hu.symm
    exact ⟨a, b, hs, hb.symm⟩

theorem accepts_pattern_anywhere : accepts (pattern .anywhere t) s ↔ fold t <:+: fold s := by
  have hp : pattern .anywhere t = '%' :: pattern .start t := rfl
  simp only [hp, accepts_percent_iff, accepts_pattern_start]
  constructor
  case mp =>
    intro ⟨u, v, hs, hv⟩
    exact hs ▸ fold_append ▸ hv.isInfix.trans (List.suffix_append _ _).isInfix
  case mpr =>
    intro ⟨u, w, hw⟩
    have ⟨a, b, hs, _, hb⟩ := fold_eq_append_iff.mp (List.append_assoc .. ▸ hw.symm)
    exact ⟨a, b, hs, w, hb.symm⟩

end EntityCatalog.Like

namespace EntityCatalog

theorem occursIn_iff {short long : List Char} : occursIn short long ↔ short <:+: long := by
  induction long
  case nil => simp [occursIn]
  case cons c cs hi => simp [occursIn, hi, List.infix_cons_iff]

theorem Part.holds_iff {part : Part} {short long : List Char} : part.holds short long ↔
    match part with
    | .anywhere => short <:+: long
    | .start => short <+: long
    | .end => short <:+ long := by
  cases part <;> simp [holds, occursIn_iff]

theorem Predicate.textHas_iff {part : Part} {t : String} {v : Value} :
    textHas part (.text t) v ↔
      ∃ s, v = .text s ∧ part.holds (Text.lower t.toList) (Text.lower s.toList) := by
  cases v <;> simp [textHas, Value.display]

-- Matching an escaped text between wildcards is looking for the text itself.
theorem Like.accepts_pattern_eq {part : Part} {s t : List Char} :
    accepts (pattern part t) s = part.holds (fold t) (fold s) := by
  rw [Bool.eq_iff_iff, Part.holds_iff]
  cases part
  case anywhere => exact accepts_pattern_anywhere
  case start => exact accepts_pattern_start
  case «end» => exact accepts_pattern_end

end EntityCatalog
