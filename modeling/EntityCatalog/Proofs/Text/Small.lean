import EntityCatalog.Proofs.Text.Lower
import Mathlib

namespace EntityCatalog.Table

theorem exists_of_rankAux {a : Array Nat} {x lo hi : Nat}
    (h : lo ≠ 0 → ∃ y, a[lo - 1]? = some y ∧ y ≤ x) (hr : rankAux a x lo hi ≠ 0) :
    ∃ y, a[rankAux a x lo hi - 1]? = some y ∧ y ≤ x := by
  fun_induction rankAux a x lo hi
  case case1 lo hi hlt mid hm ih =>
    have ⟨hs, hx⟩ := Option.any_eq_true_iff_get _ _ |>.mp hm
    exact ih (fun _ => ⟨_, (Option.some_get hs).symm, by simpa using hx⟩) hr
  case case2 ih => exact ih h hr
  case case3 => exact h hr

theorem exists_of_rank {a : Array Nat} {x i : Nat} (h : rank a x = i + 1) :
    ∃ y, a[i]? = some y ∧ y ≤ x := by
  have hr : rankAux a x 0 a.size = i + 1 := h
  have hn : rankAux a x 0 a.size ≠ 0 := by rw [hr]; exact i.succ_ne_zero
  have he := exists_of_rankAux (fun h => absurd rfl h) hn
  rwa [hr] at he

end EntityCatalog.Table

namespace EntityCatalog.Text

variable {c : Char} {cs : List Char}

theorem getElem?_lowerRuns {i n : Nat} (h : lowerRuns.1[i]? = some n) :
    ∃ run, (n, run) ∈ lowerTable ∧ lowerRuns.1.getD i 0 = n ∧
      lowerRuns.2.getD i default = run := by
  simp only [lowerRuns, List.getElem?_toArray, List.getElem?_map, Option.map_eq_some_iff] at h
  obtain ⟨⟨_, run⟩, hm, rfl⟩ := h
  exact ⟨run, List.mem_of_getElem? hm, by simp [lowerRuns, hm], by simp [lowerRuns, hm]⟩

theorem exists_run_of_lowerChar_ne (h : ¬isAscii c) (hi : c ≠ 'İ') (hc : lowerChar c ≠ c) :
    ∃ m ∈ lowerTable, m.1 ≤ c.toNat ∧ c.toNat ≤ m.2.last ∧ (c.toNat - m.1) % m.2.step = 0 ∧
      (lowerChar c).toNat = m.2.lower + (c.toNat - m.1) := by
  have ha : ¬c.toNat < 0x80 := by simpa [isAscii] using h
  unfold lowerChar at hc ⊢
  rw [if_neg hi, if_neg ha] at hc ⊢
  split at hc
  case h_1 => exact absurd rfl hc
  case h_2 i hr =>
    obtain ⟨n, hn, hx⟩ := Table.exists_of_rank hr
    obtain ⟨run, hm, hn, hrun⟩ := getElem?_lowerRuns hn
    dsimp only at hc ⊢
    rw [hn, hrun] at hc ⊢
    split at hc
    case isFalse => exact absurd rfl hc
    case isTrue hl =>
      refine ⟨(n, run), hm, hx, hl.1, hl.2, ?_⟩
      have ht := lower_of_mem_lowerTable _ hm
      have hk : 'k'.toNat = 0x6b := rfl
      dsimp only at ht
      rw [if_pos hl, toNat_ofNat]
      simp only [Nat.isValidChar]
      omega

-- Where the small letters of one run lie among the letters of another, the two take turns there.
theorem alternate_of_mem_lowerTable : ∀ m ∈ lowerTable, ∀ n ∈ lowerTable,
    n.1 ≤ m.2.lower + (m.2.last - m.1) → m.2.lower ≤ n.2.last →
      n.2.step = 2 ∧ n.1 ≤ m.2.lower ∧ (m.2.lower - n.1) % 2 = 1 ∧
        (m.2.step = 2 ∨ m.1 = m.2.last) := by
  decide +kernel

theorem lower_ne_of_mem_lowerTable : ∀ m ∈ lowerTable,
    m.2.lower + (m.2.last - m.1) < 'İ'.toNat ∨ 'İ'.toNat < m.2.lower := by
  decide +kernel

theorem lowerChar_ne_dotted (h : ¬isAscii c) (hi : c ≠ 'İ') : lowerChar c ≠ 'İ' := by
  intro he
  have ⟨m, hm, hx, hl, _, hn⟩ := exists_run_of_lowerChar_ne h hi (he ▸ hi.symm)
  have := lower_ne_of_mem_lowerTable m hm
  rw [he] at hn
  omega

theorem isAscii_toLower (h : isAscii c) : isAscii c.toLower := by
  by_cases hu : c.isUpper
  case neg => rwa [Char.toLower_eq_of_not_isUpper hu]
  case pos =>
    have hz := toNat_le_of_isUpper hu
    rw [Char.toLower_eq_of_isUpper hu, isAscii, toNat_ofNat (by simp only [Nat.isValidChar]; omega)]
    exact decide_eq_true (by omega)

theorem lowerChar_lowerChar : lowerChar (lowerChar c) = lowerChar c := by
  by_cases h : isAscii c
  case pos =>
    rw [lowerChar_of_ascii h, lowerChar_of_ascii (isAscii_toLower h),
      Char.toLower_toLower_eq_toLower]
  case neg =>
    by_cases hi : c = 'İ'
    case pos => rw [hi]; decide
    case neg =>
      by_cases ha : isAscii (lowerChar c)
      case pos => rw [lowerChar_eq_k_of_ascii h hi ha]; decide
      case neg =>
        by_contra hn
        have hc : lowerChar c ≠ c := fun e => hn (by rw [e, e])
        have ⟨m, hm, hx, hl, hs, he⟩ := exists_run_of_lowerChar_ne h hi hc
        have ⟨n, hm', hx', hl', hs', _⟩ :=
          exists_run_of_lowerChar_ne ha (lowerChar_ne_dotted h hi) hn
        have ⟨hstep, _, hodd, ht⟩ :=
          alternate_of_mem_lowerTable m hm n hm' (by omega) (by omega)
        rw [hstep] at hs'
        rcases ht with ht | ht
        case inl => rw [ht] at hs; omega
        case inr => omega

def IsSmall (c : Char) : Prop := lowerChar c = c

instance : DecidablePred IsSmall := fun c => inferInstanceAs (Decidable (lowerChar c = c))

theorem lowerAt_of_isSmall {before after : List Char} (h : IsSmall c) :
    lowerAt before c after = [c] := by
  have hs : c ≠ 'Σ' := by rintro rfl; exact absurd h (by decide +kernel)
  have hi : c ≠ 'İ' := by rintro rfl; exact absurd h (by decide +kernel)
  rw [lowerAt, if_neg hs, if_neg hi, h]

theorem isSmall_of_mem_lowerAt {a : Char} {before after : List Char}
    (h : c ∈ lowerAt before a after) : IsSmall c := by
  unfold lowerAt at h
  split at h
  case isTrue => split at h <;> rw [List.mem_singleton.mp h] <;> decide +kernel
  case isFalse =>
    split at h
    case isTrue =>
      rcases List.mem_cons.mp h with rfl | h
      case inl => decide +kernel
      case inr => rw [List.mem_singleton.mp h]; decide +kernel
    case isFalse => rw [List.mem_singleton.mp h]; exact lowerChar_lowerChar

theorem isSmall_of_mem_lowerAux {before : List Char} (h : c ∈ lowerAux before cs) : IsSmall c := by
  induction cs generalizing before
  case nil => cases h
  case cons a cs hi => exact (List.mem_append.mp h).elim isSmall_of_mem_lowerAt hi

theorem lowerAt_of_isSmall_toLower {before after : List Char} (h : IsSmall c.toLower) :
    lowerAt before c after = [c.toLower] := by
  by_cases hc : isAscii c
  case pos => exact lowerAt_of_ascii hc
  case neg =>
    have hl : c.toLower = c := Char.toLower_eq_of_not_isUpper fun hu => hc (isAscii_of_isUpper hu)
    rw [hl] at h ⊢
    exact lowerAt_of_isSmall h

-- A part that is small but for capitals of ASCII is taken character by character, whatever stands
-- around it.
theorem lowerAux_append_of_isSmall {before u w : List Char} (h : ∀ c ∈ u, IsSmall c.toLower) :
    lowerAux before (u ++ w) = u.map Char.toLower ++ lowerAux (u.reverse ++ before) w := by
  induction u generalizing before
  case nil => rfl
  case cons c u hi =>
    have ⟨hc, hu⟩ := List.forall_mem_cons.mp h
    simp [lowerAux, lowerAt_of_isSmall_toLower hc, hi hu]

theorem lowerAux_of_isSmall {before : List Char} (h : ∀ c ∈ cs, IsSmall c.toLower) :
    lowerAux before cs = cs.map Char.toLower := by
  simpa [lowerAux] using lowerAux_append_of_isSmall (w := []) h

theorem exists_lowerAux_append (before u w : List Char) :
    ∃ p, lowerAux before (u ++ w) = p ++ lowerAux (u.reverse ++ before) w := by
  induction u generalizing before
  case nil => exact ⟨[], rfl⟩
  case cons c u hi =>
    have ⟨p, hp⟩ := hi (c :: before)
    exact ⟨lowerAt before c (u ++ w) ++ p, by simp [lowerAux, hp]⟩

end EntityCatalog.Text
