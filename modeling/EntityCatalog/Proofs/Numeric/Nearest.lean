import EntityCatalog.Proofs.Numeric.Integer
import Mathlib

namespace EntityCatalog

theorem roundHalfEven_nearest {n d : Nat} (hd : 0 < d) (c : Nat) :
    |(n : Int) - roundHalfEven n d * d| ≤ |(n : Int) - c * d| := by
  obtain ⟨hu, hl⟩ := roundHalfEven_bounds n hd
  generalize roundHalfEven n d = r at hu hl ⊢
  rw [Int.abs_eq_natAbs, Int.abs_eq_natAbs, Nat.cast_le, ← Nat.cast_mul, ← Nat.cast_mul]
  rcases lt_trichotomy c r with hc | rfl | hc
  case inl =>
    have hs : (c + 1) * d ≤ r * d := Nat.mul_le_mul_right d hc
    rw [Nat.succ_mul] at hs
    omega
  case inr.inl => exact le_rfl
  case inr.inr =>
    have hs : (r + 1) * d ≤ c * d := Nat.mul_le_mul_right d hc
    rw [Nat.succ_mul] at hs
    omega

section Sign

variable {negative : Bool} {n : Nat}

theorem abs_signed : |(signed negative n : ℚ)| = n := by
  cases negative <;> simp [signed]

theorem abs_signed_sub_signed (m : Nat) :
    |(signed negative n : ℚ) - signed negative m| = |(n : ℚ) - m| := by
  cases negative
  case false => simp [signed]
  case true => rw [abs_sub_comm]; simp [signed, add_comm, sub_eq_add_neg]

theorem signed_natAbs (i : Int) : signed (decide (i < 0)) i.natAbs = i := by
  unfold signed
  split
  case isTrue h =>
    have := of_decide_eq_true h
    omega
  case isFalse h =>
    have := of_decide_eq_false (Bool.not_eq_true _ ▸ h)
    omega

end Sign

namespace Binary64

def Has (q : ℚ) : Prop :=
  ∃ (m : ℕ) (e : ℤ), m < 2 ^ 53 ∧ minExponent ≤ e ∧ e ≤ 971 ∧ |q| = m * 2 ^ e

-- A number of binary64 that is as near to another number as any that binary64 has.
structure IsNearest (q r : ℚ) : Prop where
  has     : Has r
  nearest : ∀ s, Has s → |q - r| ≤ |q - s|

variable {negative : Bool} {n : Nat} {x : Binary64} {i : Int} {q r s t : ℚ}

theorem IsExact.has (h : IsExact i) : Has i := by
  obtain ⟨m, k, hm, hk, hi⟩ := h
  refine ⟨m, k, hm, by unfold minExponent; omega, by omega, ?_⟩
  rw [← Int.cast_abs, Int.abs_eq_natAbs, hi]
  simp

namespace IsNearest

theorem refl (h : Has q) : IsNearest q q where
  has     := h
  nearest := by simp

theorem eq_iff (h : IsNearest q r) : r = q ↔ Has q := by
  constructor
  case mp => rintro rfl; exact h.has
  case mpr =>
    intro hq
    have hn := h.nearest q hq
    rw [sub_self, abs_zero, abs_nonpos_iff, sub_eq_zero] at hn
    exact hn.symm

theorem add_le_of_abs_le (hl : s < r) (h : |q - r| ≤ |q - s|) : r + s ≤ 2 * q := by
  rcases abs_cases (q - r) with ⟨hr, _⟩ | ⟨hr, _⟩ <;>
    rcases abs_cases (q - s) with ⟨hs, _⟩ | ⟨hs, _⟩ <;> linarith

theorem le_add_of_abs_le (hl : r < s) (h : |q - r| ≤ |q - s|) : 2 * q ≤ r + s := by
  rcases abs_cases (q - r) with ⟨hr, _⟩ | ⟨hr, _⟩ <;>
    rcases abs_cases (q - s) with ⟨hs, _⟩ | ⟨hs, _⟩ <;> linarith

-- Two numbers are rounded to numbers in the other order only if they are that way themselves.
theorem mono (h : IsNearest q r) (h' : IsNearest s t) (hq : q < s) : r ≤ t := by
  by_contra hn
  have hl := add_le_of_abs_le (not_le.mp hn) (h.nearest t h'.has)
  have hm := le_add_of_abs_le (not_le.mp hn) (h'.nearest r h.has)
  linarith

end IsNearest

theorem exists_nearer (h : 2 ^ 53 ≤ n) (hs : Has s) :
    ∃ c : ℕ, |(n : ℚ) - c * 2 ^ (n.log2 - 52)| ≤ |(n : ℚ) - (|s|)| := by
  obtain ⟨m, e, hm, _, _, he⟩ := hs
  obtain ⟨hl, _⟩ := mul_two_pow_bounds h
  generalize n.log2 - 52 = k at hl ⊢
  rw [he]
  by_cases hk : (k : Int) ≤ e
  case pos =>
    obtain ⟨j, rfl⟩ : ∃ j : ℕ, e = j + k := ⟨(e - k).toNat, by omega⟩
    refine ⟨m * 2 ^ j, ?_⟩
    rw [zpow_add₀ two_ne_zero, zpow_natCast, zpow_natCast, ← mul_assoc]
    push_cast
    exact le_rfl
  case neg =>
    refine ⟨2 ^ 52, ?_⟩
    have hp : (0 : ℚ) < 2 ^ e := zpow_pos two_pos e
    have hb : (m : ℚ) * 2 ^ e ≤ 2 ^ 52 * 2 ^ k :=
      calc (m : ℚ) * 2 ^ e ≤ 2 ^ 53 * 2 ^ e :=
            mul_le_mul_of_nonneg_right (by exact_mod_cast hm.le) hp.le
        _ = 2 ^ 52 * 2 ^ (e + 1) := by rw [zpow_add_one₀ two_ne_zero]; ring
        _ ≤ 2 ^ 52 * 2 ^ (k : Int) := by
            refine mul_le_mul_of_nonneg_left ?_ (by positivity)
            exact zpow_le_zpow_right₀ one_le_two (by omega)
        _ = 2 ^ 52 * 2 ^ k := by rw [zpow_natCast]
    have hn : (2 : ℚ) ^ 52 * 2 ^ k ≤ n := by exact_mod_cast hl
    rw [Nat.cast_pow, Nat.cast_ofNat, abs_of_nonneg (sub_nonneg.mpr hn),
      abs_of_nonneg (sub_nonneg.mpr (hb.trans hn))]
    exact sub_le_sub_left hb _

theorem isNearest_ofRatio (hx : (ofRatio negative n 1).isFinite) :
    IsNearest (signed negative n) (ofRatio negative n 1).worth ∧
      ∃ j : Int, (ofRatio negative n 1).worth = j := by
  by_cases h : n < 2 ^ 53
  case pos =>
    rw [worth_of_toInt? (toInt?_ofRatio_of_lt h)]
    exact ⟨.refl (isExact_of_lt h).has, _, rfl⟩
  case neg =>
    have h := not_lt.mp h
    obtain ⟨m, p, _, hm, hr, ho⟩ := @ofRatio_of_le negative n h
    by_cases hp : 971 < (p : Int)
    case pos => simp [ho, hp, isFinite] at hx
    case neg =>
      have hw : (ofRatio negative n 1).worth = signed negative (m * 2 ^ p) := by
        rw [ho, if_neg hp, worth_of_toInt? toInt?_finite]
      have he : IsExact (signed negative (m * 2 ^ p)) := ⟨m, p, hm, by omega, by simp⟩
      rw [hw]
      refine ⟨⟨he.has, fun s hs => ?_⟩, _, rfl⟩
      obtain ⟨c, hc⟩ := exists_nearer h hs
      have hn := @roundHalfEven_nearest n (2 ^ (n.log2 - 52)) (Nat.two_pow_pos _) c
      calc |(signed negative n : ℚ) - signed negative (m * 2 ^ p)|
          = |(n : ℚ) - (m * 2 ^ p : ℕ)| := abs_signed_sub_signed _
        _ ≤ |(n : ℚ) - c * 2 ^ (n.log2 - 52)| := by rw [hr]; exact_mod_cast hn
        _ ≤ |(n : ℚ) - (|s|)| := hc
        _ = |(|(signed negative n : ℚ)| - |s|)| := by rw [abs_signed]
        _ ≤ |(signed negative n : ℚ) - s| := abs_abs_sub_abs_le_abs_sub _ _

theorem isNearest_ofInt? (h : ofInt? i = some x) :
    x.isInRange ∧ IsNearest i x.worth ∧ ∃ j : Int, x.worth = j := by
  unfold ofInt? at h
  split at h <;> cases h
  case h_1.refl hx =>
    have hf : (ofRatio (decide (i < 0)) i.natAbs 1).isFinite := by rw [hx]; rfl
    have hn := isNearest_ofRatio hf
    rw [signed_natAbs, hx] at hn
    exact ⟨hx ▸ isInRange_ofRatio hf, hn⟩

end Binary64

end EntityCatalog
