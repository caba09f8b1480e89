import EntityCatalog.Proofs.Store.Search
import Mathlib

namespace EntityCatalog

open Text

namespace Like

-- What a pattern means: any text for `%`, any character for `_`, and for all else the character
-- itself, but for the case of ASCII letters. A backslash without a character after it is nothing
-- that a text could match.
inductive Matches : List Char → List Char → Prop
  | nil : Matches [] []
  | many {ps v} (u) : Matches ps v → Matches ('%' :: ps) (u ++ v)
  | one {ps c cs} : Matches ps cs → Matches ('_' :: ps) (c :: cs)
  | escaped {p ps c cs} :
    foldChar p = foldChar c → Matches ps cs → Matches ('\\' :: p :: ps) (c :: cs)
  | plain {p ps c cs} :
    ¬IsSpecial p → foldChar p = foldChar c → Matches ps cs → Matches (p :: ps) (c :: cs)

variable {ps s t : List Char}

theorem patternInduction {motive : List Char → Prop} (nil : motive [])
    (many : ∀ ps, motive ps → motive ('%' :: ps)) (one : ∀ ps, motive ps → motive ('_' :: ps))
    (lone : motive ['\\']) (escaped : ∀ p ps, motive ps → motive ('\\' :: p :: ps))
    (plain : ∀ p ps, ¬IsSpecial p → motive ps → motive (p :: ps)) (ps : List Char) : motive ps := by
  induction hn : ps.length using Nat.strong_induction_on generalizing ps
  case h n hi =>
    subst hn
    cases ps
    case nil => exact nil
    case cons p ps =>
      have hp : motive ps := hi _ (by simp) ps rfl
      by_cases h : IsSpecial p
      case neg => exact plain p ps h hp
      case pos =>
        rcases h with rfl | rfl | rfl
        case inl =>
          cases ps
          case nil => exact lone
          case cons p ps => exact escaped p ps (hi _ (by simp) ps rfl)
        case inr.inl => exact many ps hp
        case inr.inr => exact one ps hp

theorem matches_of_accepts (h : accepts ps s) : Matches ps s := by
  induction ps using patternInduction generalizing s
  case nil =>
    rw [accepts_nil, List.isEmpty_iff] at h
    exact h ▸ .nil
  case many ps hi =>
    have ⟨u, v, hs, hv⟩ := accepts_percent_iff.mp h
    exact hs ▸ .many u (hi hv)
  case one ps hi =>
    cases s
    case nil => simp [accepts] at h
    case cons c cs => exact .one (hi (by simpa [accepts] using h))
  case lone => simp [accepts] at h
  case escaped p ps hi =>
    cases s
    case nil => simp [accepts] at h
    case cons c cs =>
      rw [accepts_escaped_cons, Bool.and_eq_true, beq_iff_eq] at h
      exact .escaped h.1 (hi h.2)
  case plain p ps hp hi =>
    cases s
    case nil => simp [accepts_cons_nil hp] at h
    case cons c cs =>
      rw [accepts_cons hp, Bool.and_eq_true, beq_iff_eq] at h
      exact .plain hp h.1 (hi h.2)

theorem Matches.accepts (h : Matches ps s) : accepts ps s := by
  induction h
  case nil => rfl
  case many u _ hi => exact accepts_percent_iff.mpr ⟨u, _, rfl, hi⟩
  case one hi => simpa [Like.accepts] using hi
  case escaped hc _ hi => simp [accepts_escaped_cons, hc, hi]
  case plain hp hc _ hi => simp [accepts_cons hp, hc, hi]

theorem accepts_iff_matches : Like.accepts ps s ↔ Matches ps s :=
  ⟨matches_of_accepts, Matches.accepts⟩

def marked (c : Char) (cs : List Char) : List Char :=
  cs.flatMap fun d => if d = c then ['\\', d] else [d]

-- The backslashes are marked before the wildcards, so none is marked that marks another character.
theorem escape_eq_marked : escape t = marked '_' (marked '%' (marked '\\' t)) := by
  simp only [escape, marked, List.flatMap_assoc]
  refine List.flatMap_congr fun c _ => ?_
  by_cases h : IsSpecial c
  case pos => rcases h with rfl | rfl | rfl <;> rfl
  case neg =>
    rw [escapeChar_of_not_special h]
    simp only [IsSpecial, not_or] at h
    simp [h]

example : marked '\\' (marked '_' (marked '%' ['%'])) = ['\\', '\\', '%'] ∧
    escape ['%'] = ['\\', '%'] := by decide

end Like

inductive Part.Occurs (t : List Char) : Part → List Char → Prop
  | anywhere (u v w) : Like.fold v = Like.fold t → Occurs t .anywhere (u ++ v ++ w)
  | start (v w) : Like.fold v = Like.fold t → Occurs t .start (v ++ w)
  | end (u v) : Like.fold v = Like.fold t → Occurs t .end (u ++ v)

theorem Part.holds_fold_iff {part : Part} {s t : List Char} :
    part.holds (Like.fold t) (Like.fold s) ↔ part.Occurs t s := by
  rw [Part.holds_iff]
  constructor
  case mp =>
    intro h
    cases part
    case anywhere =>
      have ⟨w, w', h⟩ := h
      obtain ⟨x, w, rfl, hx, _⟩ := Like.fold_eq_append_iff.mp h.symm
      obtain ⟨u, v, rfl, _, hv⟩ := Like.fold_eq_append_iff.mp hx
      exact .anywhere u v w hv
    case start =>
      have ⟨w, h⟩ := h
      obtain ⟨v, w, rfl, hv, _⟩ := Like.fold_eq_append_iff.mp h.symm
      exact .start v w hv
    case «end» =>
      have ⟨u, h⟩ := h
      obtain ⟨u, v, rfl, _, hv⟩ := Like.fold_eq_append_iff.mp h.symm
      exact .end u v hv
  case mpr =>
    rintro (⟨u, v, w, hv⟩ | ⟨v, w, hv⟩ | ⟨u, v, hv⟩)
    case anywhere => exact ⟨_, _, by rw [Like.fold_append, Like.fold_append, hv]⟩
    case start => exact ⟨_, by rw [Like.fold_append, hv]⟩
    case «end» => exact ⟨_, by rw [Like.fold_append, hv]⟩

theorem Part.occurs_fold_iff {part : Part} {s t : List Char} :
    part.Occurs t (Like.fold s) ↔ part.Occurs t s := by
  rw [← holds_fold_iff, ← holds_fold_iff, Like.fold_fold]

theorem Like.accepts_pattern_iff {part : Part} {s t : List Char} :
    accepts (pattern part t) s ↔ part.Occurs t s := by
  rw [accepts_pattern_eq, Part.holds_fold_iff]

namespace Predicate

variable {part : Part} {d : Document} {path v : String} {s t : List Char}

theorem selects_likeClause_iff_occurs (hp : isPlainName path) (hd : (Value.object d).IsPlain)
    (hn : ∀ s, d.get? path = some (.text s) → '\x00' ∉ s.toList) (hv : '\x00' ∉ v.toList) :
    (likeClause part path (.text v)).selects d ↔
      ∃ s, d.get? path = some (.text s) ∧ part.Occurs (lower v.toList) s.toList := by
  rw [selects_likeClause_iff hp hd hn]
  simp only [Cell.takeWhile_of_nul_not_mem (Like.nul_not_mem_pattern (nul_not_mem_lower hv)),
    Like.accepts_pattern_iff, Part.occurs_fold_iff]

-- The text of a search stands for itself, also where it has signs of patterns in it. Each way to
-- search asks for the text as the part of another that it names, up to the case of ASCII letters,
-- and the lower-casing of the whole pattern is that of the text alone. What the store selects are
-- the documents whose text has it there.
theorem search_literal :
    (∀ ps, Like.accepts ps s ↔ Like.Matches ps s) ∧
    Like.escape t = Like.marked '_' (Like.marked '%' (Like.marked '\\' t)) ∧
    (Like.Matches (Like.pattern part t) s ↔ part.Occurs t s) ∧
    searchPattern part t = lower (Like.pattern part t) ∧
    (Like.Matches (lower (Like.pattern part t)) s ↔ part.Occurs (lower t) s) ∧
    ∀ (d : Document) path, isPlainName path → (Value.object d).IsPlain → '\x00' ∉ t →
      (∀ s, d.get? path = some (.text s) → '\x00' ∉ s.toList) →
      ∃ c, Tables.clauseOf (some (.contains part path (.text (String.ofList t)))) = .ok c ∧
        (c.selects d ↔ ∃ s, d.get? path = some (.text s) ∧ part.Occurs (lower t) s.toList) := by
  have hl : lower (Like.pattern part t) = Like.pattern part (lower t) := by
    rw [← searchPattern_eq]
    cases part <;> rfl
  refine ⟨fun ps => Like.accepts_iff_matches, Like.escape_eq_marked, ?_, ?_, ?_, ?_⟩
  case refine_1 => rw [← Like.accepts_iff_matches, Like.accepts_pattern_iff]
  case refine_2 => rw [hl, searchPattern_eq]
  case refine_3 => rw [hl, ← Like.accepts_iff_matches, Like.accepts_pattern_iff]
  case refine_4 =>
    intro d path hp hd ht hn
    have hv : (String.ofList t).toList = t := String.toList_ofList
    have hs : (likeClause part path (.text (String.ofList t))).selects d ↔ _ :=
      selects_likeClause_iff_occurs hp hd hn (by rwa [hv])
    rw [hv] at hs
    exact ⟨_, clauseOf_contains, hs⟩

theorem search_literal_signs :
    ∃ c, Tables.clauseOf (some (.contains .end "t" (.text "0%_Off\\"))) = .ok c ∧
      c.selects [("t", .text "now 50%_oFF\\")] := by
  have ⟨_, _, _, _, _, h⟩ := @search_literal .end [] "0%_Off\\".toList
  have ⟨c, hc, hs⟩ := h [("t", .text "now 50%_oFF\\")] "t" (by decide) rfl (by decide)
    (by rintro s hs; cases hs; decide)
  exact ⟨c, hc, hs.mpr ⟨_, rfl, Part.holds_fold_iff.mp (by decide +kernel)⟩⟩

end Predicate

end EntityCatalog
