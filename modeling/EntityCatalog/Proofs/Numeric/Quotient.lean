import EntityCatalog.Listing
import Mathlib.Algebra.Order.Floor.Div
import Mathlib.Data.Nat.Log
import Mathlib.Tactic.Linarith
import Mathlib.Tactic.Ring

namespace EntityCatalog

theorem mul_ceilDiv_mul {a b c : Nat} (hb : 0 < b) (hc : 0 < c) :
    (c * a) ⌈/⌉ (c * b) = a ⌈/⌉ b := by
  refine eq_of_forall_ge_iff fun p => ?_
  rw [ceilDiv_le_iff_le_mul (Nat.mul_pos hc hb), ceilDiv_le_iff_le_mul hb, mul_assoc,
    Nat.mul_le_mul_left_iff hc]

theorem roundHalfEven_bounds (num : Nat) {den : Nat} (hd : 0 < den) :
    2 * (roundHalfEven num den * den) ≤ 2 * num + den ∧
      2 * num ≤ 2 * (roundHalfEven num den * den) + den := by
  have hm : num / den * den + num % den = num := Nat.div_add_mod' num den
  have hr : num % den < den := Nat.mod_lt num hd
  unfold roundHalfEven
  dsimp only
  split
  case isTrue => omega
  case isFalse =>
    split
    case isTrue => rw [Nat.add_mul, Nat.one_mul]; omega
    case isFalse =>
      split
      case isTrue => omega
      case isFalse => rw [Nat.add_mul, Nat.one_mul]; omega

theorem ceilDiv_roundHalfEven {num den k : Nat} (hd : 0 < den) (hk : den < 2 * 2 ^ k) :
    roundHalfEven (num * 2 ^ k) den ⌈/⌉ 2 ^ k = num ⌈/⌉ den := by
  have ⟨hu, hl⟩ := roundHalfEven_bounds (num * 2 ^ k) hd
  generalize roundHalfEven (num * 2 ^ k) den = m at hu hl ⊢
  refine eq_of_forall_ge_iff fun p => ?_
  rw [ceilDiv_le_iff_le_mul (Nat.two_pow_pos k), ceilDiv_le_iff_le_mul hd]
  constructor
  case mp =>
    intro hm
    by_contra hn
    have hm : m * den ≤ 2 ^ k * p * den := Nat.mul_le_mul_right den hm
    have hn : (den * p + 1) * 2 ^ k ≤ num * 2 ^ k := Nat.mul_le_mul_right _ (not_le.mp hn)
    linarith [show (den * p + 1) * 2 ^ k = 2 ^ k * p * den + 2 ^ k by ring]
  case mpr =>
    intro hn
    by_contra hm
    have hm : (2 ^ k * p + 1) * den ≤ m * den := Nat.mul_le_mul_right den (not_le.mp hm)
    have hn : num * 2 ^ k ≤ den * p * 2 ^ k := Nat.mul_le_mul_right _ hn
    linarith [show (2 ^ k * p + 1) * den = den * p * 2 ^ k + den by ring]

namespace Binary64

theorem ceil?_finite {m k : Nat} :
    (finite false m (-(k : Int))).ceil? = some ((m ⌈/⌉ 2 ^ k : Nat) : Int) := by
  have hr : ratio m (-(k : Int)) = (m, 2 ^ k) := by
    unfold ratio
    split
    case isTrue h =>
      have hk : k = 0 := by omega
      simp [hk]
    case isFalse h => simp
  have hp : 1 ≤ m + 2 ^ k := Nat.one_le_two_pow.trans (Nat.le_add_left _ _)
  unfold ceil?
  simp only [hr]
  rw [Nat.ceilDiv_eq_add_pred_div]
  push_cast [Nat.cast_sub hp]
  rfl

variable {negative : Bool} {num den : Nat}

theorem floorLog_cases (num den : Nat) {e : Int} (he : (num.log2 : Int) - den.log2 = e) :
    floorLog num den = e ∧ 0 ≤ e ∧ den * 2 ^ e.toNat ≤ num ∨
      floorLog num den = e ∧ e < 0 ∧ den ≤ num * 2 ^ (-e).toNat ∨ floorLog num den = e - 1 := by
  unfold floorLog
  rw [he]
  dsimp only
  by_cases h0 : 0 ≤ e
  case pos => by_cases hf : den * 2 ^ e.toNat ≤ num <;> simp [h0, hf]
  case neg => by_cases hf : den ≤ num * 2 ^ (-e).toNat <;> simp [h0, hf, not_le.mp h0]

theorem mul_two_pow_le_of_floorLog (den : Nat) (hn : 0 < num) {c : Nat}
    (hc : floorLog num den ≤ c) :
    den * 2 ^ c ≤ num * 2 ^ (c - floorLog num den).toNat := by
  generalize he : (num.log2 : Int) - den.log2 = e
  rcases floorLog_cases num den he with ⟨hl, h0, hf⟩ | ⟨hl, h0, hf⟩ | hl
  all_goals rw [hl] at hc ⊢
  case inl =>
    have hp : c = e.toNat + (c - e).toNat := by omega
    calc den * 2 ^ c = den * 2 ^ e.toNat * 2 ^ (c - e).toNat := by rw [mul_assoc, ← pow_add, ← hp]
      _ ≤ num * 2 ^ (c - e).toNat := Nat.mul_le_mul_right _ hf
  case inr.inl =>
    have hp : (c - e).toNat = (-e).toNat + c := by omega
    calc den * 2 ^ c ≤ num * 2 ^ (-e).toNat * 2 ^ c := Nat.mul_le_mul_right _ hf
      _ = num * 2 ^ (c - e).toNat := by rw [mul_assoc, ← pow_add, hp]
  case inr.inr =>
    have hp : den.log2 + 1 + c = num.log2 + (c - (e - 1)).toNat := by omega
    calc den * 2 ^ c ≤ 2 ^ (den.log2 + 1) * 2 ^ c :=
          Nat.mul_le_mul_right _ Nat.lt_log2_self.le
      _ = 2 ^ num.log2 * 2 ^ (c - (e - 1)).toNat := by rw [← pow_add, ← pow_add, hp]
      _ ≤ num * 2 ^ (c - (e - 1)).toNat := Nat.mul_le_mul_right _ (Nat.log2_self_le hn.ne')

theorem floorLog_le (hn : 0 < num) (hd : 0 < den) (hb : num < 2 ^ 53) : floorLog num den ≤ 52 := by
  by_contra h
  have hc := mul_two_pow_le_of_floorLog den hn (c := (floorLog num den).toNat) (by omega)
  have hk : 2 ^ 53 ≤ 2 ^ (floorLog num den).toNat := Nat.pow_le_pow_right two_pos (by omega)
  have hz : (((floorLog num den).toNat : Int) - floorLog num den).toNat = 0 := by omega
  rw [hz, pow_zero, mul_one] at hc
  have := Nat.mul_le_mul hd hk
  omega

-- A quotient of small numbers is rounded at a power of two that is more than half of one part of
-- the divisor. If the mantissa becomes too large, then it is halved with the power.
theorem ofRatio_eq (hn : 0 < num) (hd : 0 < den) (hnb : num < 2 ^ 53) (hdb : den < 2 ^ 53) :
    ∃ k : Nat, den < 2 * 2 ^ k ∧
      (ofRatio negative num den = finite negative (roundHalfEven (num * 2 ^ k) den) (-(k : Int)) ∨
        ∃ l, k = l + 1 ∧ roundHalfEven (num * 2 ^ k) den = 2 ^ 53 ∧
          ofRatio negative num den = finite negative (2 ^ 52) (-(l : Int))) := by
  have hl := floorLog_le hn hd hnb
  obtain ⟨k, hk⟩ : ∃ k : Nat, floorLog num den = 52 - k :=
    ⟨(52 - floorLog num den).toNat, by omega⟩
  have hs : den * 2 ^ 52 ≤ num * 2 ^ k := by
    have hs := mul_two_pow_le_of_floorLog den hn (c := 52) hl
    rwa [show ((52 : Nat) - floorLog num den).toNat = k by omega] at hs
  have hdk : den < 2 * 2 ^ k := by
    have hp : num * 2 ^ k < 2 ^ 53 * 2 ^ k := Nat.mul_lt_mul_of_pos_right hnb (Nat.two_pow_pos k)
    omega
  have hq : max (floorLog num den - 52) minExponent = -(k : Int) := by
    have hd : den.log2 < 53 := (Nat.log2_lt hd.ne').mpr hdb
    have he := floorLog_cases num den rfl
    unfold minExponent
    omega
  have hm : (if 0 ≤ -(k : Int) then roundHalfEven num (den * Nat.pow 2 (-(k : Int)).toNat)
      else roundHalfEven (num * Nat.pow 2 (-(-(k : Int))).toNat) den) =
      roundHalfEven (num * 2 ^ k) den := by
    split
    case isTrue h => simp [show k = 0 by omega]
    case isFalse => simp
  refine ⟨k, hdk, ?_⟩
  unfold ofRatio
  rw [if_neg hn.ne', hq]
  dsimp only
  rw [hm, Nat.pow_eq, Nat.pow_eq]
  by_cases ht : roundHalfEven (num * 2 ^ k) den = 2 ^ 53
  case neg =>
    left
    rw [if_neg ht]
    exact if_neg (by omega)
  case pos =>
    right
    rw [if_pos ht]
    cases k
    case zero =>
      have ⟨hu, _⟩ := roundHalfEven_bounds (num * 2 ^ 0) hd
      rw [ht] at hu
      omega
    case succ l => exact ⟨l, rfl, ht, (if_neg (by omega)).trans (by simp)⟩

theorem ceil?_ofRatio (hd : 0 < den) (hnb : num < 2 ^ 53) (hdb : den < 2 ^ 53) :
    (ofRatio false num den).ceil? = some ((num ⌈/⌉ den : Nat) : Int) := by
  rcases Nat.eq_zero_or_pos num with rfl | hn
  case inl =>
    have h0 : ofRatio false 0 den = finite false 0 (-(1074 : Nat)) := by simp [ofRatio, minExponent]
    rw [h0, ceil?_finite, zero_ceilDiv, zero_ceilDiv]
  case inr =>
    obtain ⟨k, hk, ho | ⟨l, rfl, ht, ho⟩⟩ := ofRatio_eq hn hd hnb hdb
    case inl => rw [ho, ceil?_finite, ceilDiv_roundHalfEven hd hk]
    case inr =>
      have h2 := mul_ceilDiv_mul (a := 2 ^ 52) (Nat.two_pow_pos l) two_pos
      rw [ho, ceil?_finite, ← ceilDiv_roundHalfEven hd hk, ht, ← h2, ← pow_succ', ← pow_succ']

end Binary64

theorem Listing.pageCount_eq {total limit : Nat} (hl : 0 < limit) (htb : total < 2 ^ 53)
    (hlb : limit < 2 ^ 53) : pageCount total limit = .ok ((total ⌈/⌉ limit : Nat) : Int) := by
  have hz : ((limit : Int) = 0) = False := by simp; omega
  have hs : ((total : Int) < 0) = False := by simp
  have hs' : ((limit : Int) < 0) = False := by simp
  unfold pageCount
  simp only [hz, if_false, hs, hs', decide_false, bne_self_eq_false, Int.natAbs_natCast]
  rw [Binary64.ceil?_ofRatio hl htb hlb]

end EntityCatalog
