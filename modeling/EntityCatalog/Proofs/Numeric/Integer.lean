import EntityCatalog.Proofs.Numeric.Quotient
import EntityCatalog.Proofs.Numeric.Worth
import Mathlib

namespace EntityCatalog

def signed (negative : Bool) (n : Nat) : Int := if negative then -n else n

@[simp] theorem natAbs_signed {negative : Bool} {n : Nat} : (signed negative n).natAbs = n := by
  cases negative <;> simp [signed]

namespace Binary64

def IsExact (i : Int) : Prop := ∃ m k, m < 2 ^ 53 ∧ k ≤ 971 ∧ i.natAbs = m * 2 ^ k

inductive Rounds (i : Int) : Binary64 → Prop
  | finite {x j} : x.isInRange → x.toInt? = some j → IsExact j → (IsExact i → j = i) → Rounds i x
  | infinite {negative} : ¬IsExact i → Rounds i (.infinite negative)

variable {negative : Bool} {m n k : Nat} {x : Binary64} {i : Int}

theorem isExact_of_lt (h : n < 2 ^ 53) : IsExact (signed negative n) :=
  ⟨n, 0, h, by decide, by simp⟩

theorem toInt?_finite :
    (finite negative m (k : Int)).toInt? = some (signed negative (m * 2 ^ k)) := by
  simp [toInt?, ratio, signed, Nat.mod_one]

theorem toInt?_finite_neg (h : m = n * 2 ^ k) :
    (finite negative m (-(k : Int))).toInt? = some (signed negative n) := by
  have hr : ratio m (-(k : Int)) = (m, 2 ^ k) := by
    unfold ratio
    split
    case isTrue h => simp [show k = 0 by omega]
    case isFalse => simp
  have hd : m / 2 ^ k = n := by rw [h, Nat.mul_div_cancel _ (Nat.two_pow_pos k)]
  have hm : m % 2 ^ k = 0 := by rw [h, Nat.mul_mod_left]
  simp only [toInt?, hr, hm, hd, if_true, signed]

theorem worth_of_toInt? (h : x.toInt? = some i) : x.worth = i := by
  cases x <;> simp only [toInt?, reduceCtorEq] at h
  case finite s m e =>
    have hs : ∀ (n : Nat) (q : ℚ), (n : ℚ) = q → some (if s then -(n : Int) else n) = some i →
        (if s then -1 else 1) * q = i := by
      rintro n _ rfl he
      cases he
      cases s <;> simp
    rw [worth, mul_assoc]
    by_cases he : 0 ≤ e
    case pos =>
      obtain ⟨k, rfl⟩ := Int.eq_ofNat_of_zero_le he
      refine hs (m * 2 ^ k) _ (by simp) ?_
      simpa [ratio, Nat.mod_one] using h
    case neg =>
      obtain ⟨k, rfl⟩ : ∃ k : Nat, e = -k := ⟨(-e).toNat, by omega⟩
      simp only [ratio, he, if_false, neg_neg, Int.toNat_natCast, Nat.pow_eq] at h
      split at h <;> try contradiction
      case isTrue hm =>
        refine hs (m / 2 ^ k) _ ?_ h
        have hp : ((2 ^ k : Nat) : ℚ) ≠ 0 := by simp
        rw [Nat.cast_div (Nat.dvd_of_mod_eq_zero hm) hp]
        simp [div_eq_mul_inv]

theorem isInRange_ofRatio {num den : Nat} (h : (ofRatio negative num den).isFinite) :
    (ofRatio negative num den).isInRange := by
  unfold ofRatio at h ⊢
  split
  case isTrue => rfl
  case isFalse hn =>
    have hq : minExponent ≤ max (floorLog num den - 52) minExponent := le_max_right _ _
    simp only [hn, if_false] at h ⊢
    generalize max (floorLog num den - 52) minExponent = q at h hq ⊢
    have hc : ∀ m : Nat,
        minExponent ≤ (if m = Nat.pow 2 53 then (Nat.pow 2 52, q + 1) else (m, q)).2 := by
      intro m
      split <;> dsimp only <;> omega
    have hi : ∀ (c : Prop) [Decidable c] (m : Nat) (e : Int), minExponent ≤ e →
        (if c then infinite negative else finite negative m e).isFinite →
        (if c then infinite negative else finite negative m e).isInRange := by
      intro c _ m e he hf
      split <;> simp_all [isFinite, isInRange]
    exact hi _ _ _ (hc _) h

theorem toInt?_ofRatio_of_lt (h : n < 2 ^ 53) :
    (ofRatio negative n 1).toInt? = some (signed negative n) := by
  rcases Nat.eq_zero_or_pos n with rfl | hn
  case inl =>
    rw [ofRatio, if_pos rfl]
    exact @toInt?_finite_neg negative 0 0 1074 (Nat.zero_mul _).symm
  case inr =>
    have hr : ∀ a, roundHalfEven a 1 = a := by simp [roundHalfEven, Nat.mod_one]
    obtain ⟨k, _, ho | ⟨l, rfl, hl, ho⟩⟩ := @ofRatio_eq negative n 1 hn Nat.one_pos h (by decide)
    case inl => rw [ho, hr, toInt?_finite_neg rfl]
    case inr =>
      rw [hr, pow_succ, ← mul_assoc] at hl
      rw [ho]
      exact toInt?_finite_neg (by omega)

theorem floorLog_one (h : 0 < n) : floorLog n 1 = n.log2 := by
  have h1 : Nat.log2 1 = 0 := by decide
  simp [floorLog, h1, Nat.log2_self_le h.ne']

theorem mul_two_pow_bounds (h : 2 ^ 53 ≤ n) :
    2 ^ 52 * 2 ^ (n.log2 - 52) ≤ n ∧ n < 2 ^ 53 * 2 ^ (n.log2 - 52) := by
  have hl : 53 ≤ n.log2 := (Nat.le_log2 (by omega)).mpr h
  rw [← pow_add, ← pow_add, show 52 + (n.log2 - 52) = n.log2 by omega,
    show 53 + (n.log2 - 52) = n.log2 + 1 by omega]
  exact ⟨Nat.log2_self_le (by omega), Nat.lt_log2_self⟩

-- Large integers are rounded to digits and a power, if the power is not too high.
theorem ofRatio_of_le (h : 2 ^ 53 ≤ n) :
    ∃ m k : Nat, 2 ^ 52 ≤ m ∧ m < 2 ^ 53 ∧
      m * 2 ^ k = roundHalfEven n (2 ^ (n.log2 - 52)) * 2 ^ (n.log2 - 52) ∧
      ofRatio negative n 1 =
        if 971 < (k : Int) then infinite negative else finite negative m k := by
  have hq : max (floorLog n 1 - 52) minExponent = ((n.log2 - 52 : Nat) : Int) := by
    have hl : 53 ≤ n.log2 := (Nat.le_log2 (by omega)).mpr h
    rw [floorLog_one (by omega), minExponent]
    omega
  obtain ⟨hl, hu⟩ := mul_two_pow_bounds h
  generalize n.log2 - 52 = j at hq hl hu ⊢
  have hj := Nat.two_pow_pos j
  obtain ⟨hmu, hml⟩ := roundHalfEven_bounds n hj
  have ho : ofRatio negative n 1 =
      let p : Nat × Int := if roundHalfEven n (2 ^ j) = 2 ^ 53 then (2 ^ 52, j + 1)
        else (roundHalfEven n (2 ^ j), j)
      if 971 < p.2 then infinite negative else finite negative p.1 p.2 := by
    unfold ofRatio
    rw [if_neg (by omega), hq]
    simp
  generalize roundHalfEven n (2 ^ j) = m at hmu hml ho ⊢
  have hle : m ≤ 2 ^ 53 := by nlinarith
  have hge : 2 ^ 52 ≤ m := by nlinarith
  by_cases hm : m = 2 ^ 53
  case pos =>
    rw [if_pos hm] at ho
    refine ⟨2 ^ 52, j + 1, le_rfl, by decide, ?_, ho⟩
    rw [hm, pow_succ]
    ring
  case neg =>
    rw [if_neg hm] at ho
    exact ⟨m, j, hge, hle.lt_of_ne hm, rfl, ho⟩

theorem roundHalfEven_of_isExact (h : 2 ^ 53 ≤ n) (hx : IsExact (signed negative n)) :
    n.log2 - 52 ≤ 971 ∧
      roundHalfEven n (2 ^ (n.log2 - 52)) * 2 ^ (n.log2 - 52) = n := by
  obtain ⟨m, k, hm, hk, hn⟩ := hx
  rw [natAbs_signed] at hn
  have hj : n.log2 - 52 ≤ k := by
    have hp := Nat.mul_lt_mul_of_pos_right hm (Nat.two_pow_pos k)
    have hl : n.log2 < 53 + k := (Nat.log2_lt (by omega)).mpr (by rwa [hn, pow_add])
    omega
  refine ⟨hj.trans hk, ?_⟩
  have hd : 2 ^ (n.log2 - 52) ∣ m * 2 ^ k := (pow_dvd_pow 2 hj).mul_left m
  rw [← hn] at hd
  have hp := Nat.two_pow_pos (n.log2 - 52)
  rw [roundHalfEven, Nat.mod_eq_zero_of_dvd hd]
  simp [Nat.div_mul_cancel hd]

-- Every integer is rounded to one that binary64 has, or becomes infinite.
theorem rounds_ofRatio : Rounds (signed negative n) (ofRatio negative n 1) := by
  by_cases h : n < 2 ^ 53
  case pos =>
    have hi := @toInt?_ofRatio_of_lt negative n h
    refine .finite (isInRange_ofRatio ?_) hi (isExact_of_lt h) fun _ => rfl
    cases hx : ofRatio negative n 1 <;> simp_all [toInt?, isFinite]
  case neg =>
    have h := not_lt.mp h
    obtain ⟨m, k, hl, hm, he, ho⟩ := @ofRatio_of_le negative n h
    have hx : IsExact (signed negative n) → k ≤ 971 ∧ m * 2 ^ k = n := by
      intro hx
      obtain ⟨hj, hr⟩ := roundHalfEven_of_isExact h hx
      have hn := he.trans hr
      -- The power is the one of the last digit kept, since the digits are as many.
      have hp : 2 ^ (52 + k) < 2 ^ (53 + (n.log2 - 52)) :=
        calc 2 ^ (52 + k) = 2 ^ 52 * 2 ^ k := pow_add ..
          _ ≤ m * 2 ^ k := Nat.mul_le_mul_right _ hl
          _ = n := hn
          _ < 2 ^ (53 + (n.log2 - 52)) := pow_add 2 53 _ ▸ (mul_two_pow_bounds h).2
      have hk := (Nat.pow_lt_pow_iff_right (by decide)).mp hp
      exact ⟨by omega, hn⟩
    by_cases hk : 971 < (k : Int)
    case pos =>
      rw [ho, if_pos hk]
      exact .infinite fun h => by have := (hx h).1; omega
    case neg =>
      have ho := ho.trans (if_neg hk)
      have hi := @isInRange_ofRatio negative n 1 (by rw [ho]; rfl)
      rw [ho] at hi ⊢
      exact .finite hi toInt?_finite ⟨m, k, hm, by omega, natAbs_signed⟩ fun h => by rw [(hx h).2]

theorem rounds_ofDecimal : Rounds (signed negative n) (ofDecimal negative n 0) := by
  have hr := @rounds_ofRatio negative n
  unfold ofDecimal
  split
  case isTrue h => rwa [ofRatio, if_pos h] at hr
  case isFalse =>
    dsimp only
    split
    case isTrue ht =>
      refine .infinite ?_
      rintro ⟨m, k, hm, hk, hn⟩
      have hb : ∀ e, 342 ≤ e → n < 10 ^ e := fun e he =>
        calc n = m * 2 ^ k := natAbs_signed.symm.trans hn
          _ < 2 ^ 53 * 2 ^ k := Nat.mul_lt_mul_of_pos_right hm (Nat.two_pow_pos k)
          _ = 2 ^ (53 + k) := (pow_add ..).symm
          _ ≤ 2 ^ (3 * e) := Nat.pow_le_pow_right two_pos (by omega)
          _ = (2 ^ 3) ^ e := pow_mul ..
          _ ≤ 10 ^ e := Nat.pow_le_pow_left (by decide) e
      have hl := Nat.toDigits_length 10 n 400 (by decide) (hb 400 (by decide))
      omega
    case isFalse =>
      rw [if_neg (by omega), if_pos le_rfl]
      simpa using hr

end Binary64

end EntityCatalog
