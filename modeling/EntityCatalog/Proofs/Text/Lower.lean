import EntityCatalog.Proofs.Text.Ascii
import Mathlib

namespace EntityCatalog.Text

variable {c : Char} {cs : List Char}

theorem lower_of_mem_lowerTable : ∀ m ∈ lowerTable,
    m.2.last < 0x80 ∨ m.2.last = m.1 ∧ m.2.lower = 'k'.toNat ∨
      0x80 ≤ m.2.lower ∧ m.2.lower + (m.2.last - m.1) < 0xd800 ∨
      0xe000 ≤ m.2.lower ∧ m.2.lower + (m.2.last - m.1) < 0x110000 := by
  decide +kernel

theorem mem_lowerTable_or (i : Nat) :
    (lowerRuns.1.getD i 0, lowerRuns.2.getD i default) ∈ lowerTable ∨
      (lowerRuns.2.getD i default).last = 0 := by
  by_cases hi : i < lowerTable.length
  case pos =>
    have hr : (lowerRuns.1.getD i 0, lowerRuns.2.getD i default) = lowerTable[i] := by
      simp [lowerRuns, hi]
    exact .inl (hr ▸ List.getElem_mem hi)
  case neg =>
    have hr : lowerRuns.2.getD i default = default := by simp [lowerRuns, hi]
    exact .inr (by rw [hr]; rfl)

theorem toNat_ofNat {n : Nat} (h : n.isValidChar) : (Char.ofNat n).toNat = n := by
  rw [Char.ofNat, dif_pos h]
  rfl

theorem lowerChar_eq_k_of_ascii (h : ¬isAscii c) (hi : c ≠ 'İ') (hl : isAscii (lowerChar c)) :
    lowerChar c = 'k' := by
  have hc : ¬c.toNat < 0x80 := by simpa [isAscii] using h
  unfold lowerChar at hl ⊢
  rw [if_neg hi, if_neg hc] at hl ⊢
  split at hl
  case h_1 => exact absurd hl h
  case h_2 i _ =>
    dsimp only at hl ⊢
    split at hl
    case isFalse => exact absurd hl h
    case isTrue hr =>
      rw [if_pos hr]
      obtain ⟨hr, _⟩ := hr
      rcases mem_lowerTable_or i with hm | hz
      case inr => omega
      case inl =>
        have ht := lower_of_mem_lowerTable _ hm
        dsimp only at ht
        generalize lowerRuns.1.getD i 0 = first, lowerRuns.2.getD i default = run at *
        have hn : c.toNat - first ≤ run.last - first := by omega
        rcases ht with _ | ⟨he, hk⟩ | ht
        case inl => omega
        case inr.inl =>
          have hz : c.toNat - first = 0 := by omega
          rw [hk, hz]
          rfl
        case inr.inr =>
          have hv : (run.lower + (c.toNat - first)).isValidChar := by
            simp only [Nat.isValidChar]
            omega
          simp only [isAscii, toNat_ofNat hv, decide_eq_true_eq] at hl
          omega

theorem toNat_le_of_isUpper (h : c.isUpper) : c.toNat ≤ 90 := by
  simp only [Char.isUpper, ge_iff_le, UInt32.le_iff_toNat_le, decide_eq_true_eq] at h
  exact h.2

theorem isAscii_of_isUpper (h : c.isUpper) : isAscii c := by
  have := toNat_le_of_isUpper h
  exact decide_eq_true (by omega)

theorem not_isUpper_lowerChar : ¬(lowerChar c).isUpper := by
  intro hu
  by_cases h : isAscii c
  case pos => exact by simp [lowerChar_of_ascii h] at hu
  case neg =>
    by_cases hi : c = 'İ'
    case pos => simp [lowerChar, hi] at hu
    case neg =>
      rw [lowerChar_eq_k_of_ascii h hi (isAscii_of_isUpper hu)] at hu
      exact absurd hu (by decide)

theorem not_isUpper_of_mem_lowerAux {before : List Char} (h : c ∈ lowerAux before cs) :
    ¬c.isUpper := by
  induction cs generalizing before
  case nil => cases h
  case cons a cs hi =>
    rcases List.mem_append.mp h with h | h
    case inr => exact hi h
    case inl =>
      unfold lowerAt at h
      split at h
      case isTrue =>
        split at h <;> rw [List.mem_singleton.mp h] <;> decide
      case isFalse =>
        split at h
        case isTrue =>
          rcases List.mem_cons.mp h with rfl | h
          case inl => decide
          case inr => rw [List.mem_singleton.mp h]; decide
        case isFalse => rw [List.mem_singleton.mp h]; exact not_isUpper_lowerChar

theorem exists_mem_lowerAt_of_not_ascii (before after : List Char) (h : ¬isAscii c) :
    ∃ x ∈ lowerAt before c after, ¬isAscii x ∨ x = 'k' := by
  unfold lowerAt
  split
  case isTrue =>
    split
    case isTrue => exact ⟨'ς', by simp, .inl (by decide)⟩
    case isFalse => exact ⟨'σ', by simp, .inl (by decide)⟩
  case isFalse =>
    split
    case isTrue => exact ⟨'\u0307', by simp, .inl (by decide)⟩
    case isFalse hi =>
      refine ⟨lowerChar c, by simp, ?_⟩
      by_cases hl : isAscii (lowerChar c)
      case pos => exact .inr (lowerChar_eq_k_of_ascii h hi hl)
      case neg => exact .inl hl

-- Only ASCII text has lower-case ASCII text, unless there is a k in it, which is also that of the
-- sign for Kelvin.
theorem eq_of_lowerAux {before : List Char} (hc : ∀ c ∈ cs, ¬c.isUpper)
    (hk : ∀ x ∈ lowerAux before cs, isAscii x ∧ x ≠ 'k') : lowerAux before cs = cs := by
  induction cs generalizing before
  case nil => rfl
  case cons c cs hi =>
    have ⟨hu, hc⟩ := List.forall_mem_cons.mp hc
    have ⟨ha, hk⟩ := List.forall_mem_append.mp hk
    by_cases h : isAscii c
    case neg =>
      have ⟨x, hx, hn⟩ := exists_mem_lowerAt_of_not_ascii before cs h
      have ⟨hx, hxk⟩ := ha x hx
      exact (hn.elim (· hx) hxk).elim
    case pos =>
      have he : lowerAt before c cs = [c] := by
        rw [lowerAt_of_ascii h, Char.toLower_eq_of_not_isUpper hu]
      rw [lowerAux, he, hi hc hk, List.singleton_append]

end EntityCatalog.Text
