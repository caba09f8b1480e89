import EntityCatalog.Proofs.Text.Small
import EntityCatalog.Proofs.Store.Like
import EntityCatalog.Store.Selection
import Mathlib

namespace EntityCatalog.Text

variable {c n : Char} {cs u w before after : List Char}

structure EndsWord (c : Char) : Prop where
  notCased : isCased c = false
  notIgnorable : isCaseIgnorable c = false

-- A character that is in the lower case of no other one: no letter of ASCII, nothing that a capital
-- sigma or a dotted capital I comes to, and nothing that another character beyond ASCII does.
structure IsOwnLower (c : Char) : Prop where
  notAlpha : ¬c.isAlpha
  notSigma : c ≠ 'ς' ∧ c ≠ 'σ'
  notDot   : c ≠ '\u0307'
  alone    : ∀ {d}, ¬isAscii d → d ≠ 'İ' → lowerChar d = c → c = d

structure IsNeutral (c : Char) : Prop where
  ascii : isAscii c
  notCased : isCased c = false
  notIgnorable : isCaseIgnorable c = false

theorem IsNeutral.not_isAlpha (h : IsNeutral n) : ¬n.isAlpha := by
  have ha : n.toNat < 0x80 := by simpa [isAscii] using h.ascii
  have hc := h.notCased
  rw [isCased, if_pos ha] at hc
  exact Bool.eq_false_iff.mp hc

theorem meetsCased_cons :
    meetsCased (c :: cs) = if isCaseIgnorable c then meetsCased cs else isCased c := by
  by_cases h : isCaseIgnorable c
  case pos => simp [meetsCased, h]
  case neg => simp [meetsCased, h]

theorem EndsWord.meetsCased_cons (h : EndsWord n) : meetsCased (n :: cs) = false := by
  rw [Text.meetsCased_cons, h.notIgnorable, h.notCased]
  rfl

theorem EndsWord.meetsCased_append (h : EndsWord n) :
    meetsCased (u ++ n :: w) = meetsCased u := by
  induction u
  case nil => exact h.meetsCased_cons
  case cons c u hi => rw [List.cons_append, Text.meetsCased_cons, Text.meetsCased_cons, hi]

theorem lowerAt_congr {before' after' : List Char} (hb : meetsCased before = meetsCased before')
    (ha : meetsCased after = meetsCased after') :
    lowerAt before c after = lowerAt before' c after' := by
  rw [lowerAt, lowerAt, hb, ha]

theorem lowerAux_congr {before' : List Char} (hb : meetsCased before = meetsCased before') :
    lowerAux before cs = lowerAux before' cs := by
  induction cs generalizing before before'
  case nil => rfl
  case cons c cs hi =>
    have hc : meetsCased (c :: before) = meetsCased (c :: before') := by
      rw [meetsCased_cons, meetsCased_cons, hb]
    rw [lowerAux, lowerAux, lowerAt_congr hb rfl, hi hc]

-- The end of a word cuts a text in two.
theorem EndsWord.lowerAux_append (h : EndsWord n) (hs : IsSmall n) :
    lowerAux before (u ++ n :: w) = lowerAux before u ++ n :: lower w := by
  induction u generalizing before
  case nil =>
    have hw : lowerAux (n :: before) w = lower w := lowerAux_congr h.meetsCased_cons
    simp [lowerAux, lowerAt_of_isSmall hs, hw]
  case cons c u hi =>
    rw [List.cons_append, lowerAux, lowerAux, hi, lowerAt_congr rfl h.meetsCased_append,
      List.append_assoc]

theorem EndsWord.lower_append (h : EndsWord n) (hs : IsSmall n) :
    lower (u ++ n :: w) = lower u ++ n :: lower w :=
  h.lowerAux_append hs

theorem IsNeutral.endsWord (h : IsNeutral n) : EndsWord n := ⟨h.notCased, h.notIgnorable⟩

theorem IsNeutral.isSmall (h : IsNeutral n) : IsSmall n := by
  rw [IsSmall, lowerChar_of_ascii h.ascii, Char.toLower_eq_of_not_isUpper]
  exact fun hu => h.not_isAlpha (by simp [Char.isAlpha, hu])

theorem IsNeutral.lowerAt_eq (h : IsNeutral n) : lowerAt before n after = [n] :=
  lowerAt_of_isSmall h.isSmall

theorem IsNeutral.meetsCased_cons (h : IsNeutral n) : meetsCased (n :: cs) = false :=
  h.endsWord.meetsCased_cons

theorem IsNeutral.lower_append (h : IsNeutral n) : lower (u ++ n :: w) = lower u ++ n :: lower w :=
  h.endsWord.lower_append h.isSmall

theorem IsOwnLower.eq_of_mem_lowerAt (h : IsOwnLower n) (hn : n ∈ lowerAt before c after) :
    n = c := by
  by_cases hc : isAscii c
  case pos =>
    rw [lowerAt_of_ascii hc, List.mem_singleton] at hn
    exact ((Like.toLower_eq_iff_of_not_alpha h.notAlpha).mp hn.symm).symm
  case neg =>
    unfold lowerAt at hn
    split at hn
    case isTrue =>
      split at hn
      case isTrue => exact absurd (List.mem_singleton.mp hn) h.notSigma.1
      case isFalse => exact absurd (List.mem_singleton.mp hn) h.notSigma.2
    case isFalse =>
      split at hn
      case isTrue =>
        rcases List.mem_cons.mp hn with rfl | hn
        case inl => exact absurd (by decide) h.notAlpha
        case inr => exact absurd (List.mem_singleton.mp hn) h.notDot
      case isFalse hi => exact h.alone hc hi (List.mem_singleton.mp hn).symm

theorem IsOwnLower.mem_of_mem_lowerAux (h : IsOwnLower n) (hn : n ∈ lowerAux before cs) :
    n ∈ cs := by
  induction cs generalizing before
  case nil => cases hn
  case cons c cs hi =>
    rcases List.mem_append.mp hn with hn | hn
    case inl => exact h.eq_of_mem_lowerAt hn ▸ List.mem_cons_self
    case inr => exact List.mem_cons_of_mem c (hi hn)

theorem IsNeutral.isOwnLower (h : IsNeutral n) : IsOwnLower n where
  notAlpha := h.not_isAlpha
  notSigma := by constructor <;> (rintro rfl; exact absurd h.ascii (by decide))
  notDot   := by rintro rfl; exact absurd h.ascii (by decide)
  alone    := by
    rintro c hc hi rfl
    have ha := h.not_isAlpha
    rw [lowerChar_eq_k_of_ascii hc hi h.ascii] at ha
    exact absurd (by decide) ha

theorem isNeutral_nul : IsNeutral '\x00' := ⟨by decide, by decide, by decide⟩

theorem nul_not_mem_lower (h : '\x00' ∉ cs) : '\x00' ∉ lower cs :=
  fun hm => h (isNeutral_nul.isOwnLower.mem_of_mem_lowerAux hm)

end EntityCatalog.Text

namespace EntityCatalog.Like

open Text

variable {c : Char} {t before : List Char}

theorem IsSpecial.isNeutral (h : IsSpecial c) : IsNeutral c := by
  rcases h with rfl | rfl | rfl <;> exact ⟨by decide, by decide, by decide⟩

theorem escape_of_not_special (h : ∀ c ∈ t, ¬IsSpecial c) : escape t = t := by
  induction t
  case nil => rfl
  case cons c t hi =>
    have ⟨hc, ht⟩ := List.forall_mem_cons.mp h
    rw [escape_cons, escapeChar_of_not_special hc, hi ht, List.singleton_append]

theorem escape_append {s t : List Char} : escape (s ++ t) = escape s ++ escape t :=
  List.flatMap_append

theorem meetsCased_escape : meetsCased (escape t) = meetsCased t := by
  induction t
  case nil => rfl
  case cons c t hi =>
    rw [escape_cons]
    by_cases h : IsSpecial c
    case pos =>
      have hb : IsSpecial '\\' := .inl rfl
      rw [escapeChar_of_special h, List.cons_append, hb.isNeutral.meetsCased_cons,
        h.isNeutral.meetsCased_cons]
    case neg =>
      rw [escapeChar_of_not_special h, List.singleton_append, meetsCased_cons, meetsCased_cons, hi]

-- The backslashes of an escaped text stand where a sigma does not look past the next character.
theorem lowerAux_escape {before' : List Char} (hb : meetsCased before = meetsCased before') :
    lowerAux before (escape t) = escape (lowerAux before' t) := by
  induction t generalizing before before'
  case nil => rfl
  case cons c t hi =>
    rw [escape_cons, lowerAux, escape_append]
    by_cases h : IsSpecial c
    case pos =>
      have hs : IsSpecial '\\' := .inl rfl
      have hn : meetsCased (c :: '\\' :: before) = meetsCased (c :: before') := by
        rw [h.isNeutral.meetsCased_cons, h.isNeutral.meetsCased_cons]
      rw [h.isNeutral.lowerAt_eq, escapeChar_of_special h, ← hi hn]
      simp [lowerAux, hs.isNeutral.lowerAt_eq, h.isNeutral.lowerAt_eq, escape,
        escapeChar_of_special h]
    case neg =>
      have hc : meetsCased (c :: before) = meetsCased (c :: before') := by
        rw [meetsCased_cons, meetsCased_cons, hb]
      have hl : ∀ x ∈ lowerAt before' c t, ¬IsSpecial x :=
        fun x hx hs => h (hs.isNeutral.isOwnLower.eq_of_mem_lowerAt hx ▸ hs)
      rw [escapeChar_of_not_special h, List.singleton_append, lowerAux, hi hc,
        escape_of_not_special hl, lowerAt_congr hb meetsCased_escape]

theorem lower_escape : lower (escape t) = escape (lower t) :=
  lowerAux_escape rfl

end EntityCatalog.Like

namespace EntityCatalog.Predicate

open Text

theorem searchPattern_eq {part : Part} {cs : List Char} :
    searchPattern part cs = Like.pattern part (lower cs) := by
  have hp : IsNeutral '%' := Like.IsSpecial.isNeutral (.inr (.inl rfl))
  have hs (cs : List Char) : lower ('%' :: cs) = '%' :: lower cs := hp.lower_append (u := [])
  have hn : lower [] = [] := rfl
  cases part <;> simp [searchPattern, Like.pattern, hs, hn, hp.lower_append, Like.lower_escape]

end EntityCatalog.Predicate
