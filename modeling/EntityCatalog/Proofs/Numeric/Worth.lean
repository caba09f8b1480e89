import EntityCatalog.Numeric.Binary64
import Mathlib.Algebra.Order.Field.Rat
import Mathlib.Algebra.Order.Ring.Cast
import Mathlib.Tactic.Ring

namespace EntityCatalog

namespace Position

def IsAt (p : Position) (q : ℚ) : Prop := ∃ u : Int, p = .point u ∧ (u : ℚ) = q * 2 ^ 1074

variable {p p' : Position} {q q' : ℚ}

theorem isAt_ofInt (n : Int) : (Position.ofInt n).IsAt n :=
  ⟨_, rfl, by rw [Int.cast_mul, Int.pow_eq, Int.cast_pow, Int.cast_ofNat]⟩

theorem IsAt.lt_iff (h : p.IsAt q) (h' : p'.IsAt q') : p.lt p' ↔ q < q' := by
  obtain ⟨u, rfl, hu⟩ := h
  obtain ⟨w, rfl, hw⟩ := h'
  have hp : (0 : ℚ) < 2 ^ 1074 := pow_pos two_pos _
  rw [← mul_lt_mul_iff_left₀ hp, ← hu, ← hw, Int.cast_lt, lt, decide_eq_true_eq]

theorem IsAt.same_iff (h : p.IsAt q) (h' : p'.IsAt q') : p.same p' ↔ q = q' := by
  obtain ⟨u, rfl, hu⟩ := h
  obtain ⟨w, rfl, hw⟩ := h'
  have hp : (2 : ℚ) ^ 1074 ≠ 0 := pow_ne_zero _ two_ne_zero
  rw [← mul_left_inj' hp, ← hu, ← hw, Int.cast_inj, same, beq_iff_eq]

theorem IsAt.le_iff (h : p.IsAt q) (h' : p'.IsAt q') : p.le p' ↔ q ≤ q' := by
  rw [le, Bool.or_eq_true, h.lt_iff h', h.same_iff h', le_iff_lt_or_eq]

end Position

namespace Binary64

-- What a finite number is worth.
def worth : Binary64 → ℚ
  | finite s m e => (if s then -1 else 1) * m * 2 ^ e
  | _ => 0

def isInRange : Binary64 → Bool
  | finite _ _ e => minExponent ≤ e
  | _ => false

theorem isAt_position {x : Binary64} (h : x.isInRange) : x.position.IsAt x.worth := by
  cases x <;> simp only [isInRange, decide_eq_true_eq, Bool.false_eq_true] at h
  case finite s m e =>
    obtain ⟨k, hk⟩ : ∃ k : Nat, e = k - 1074 :=
      ⟨(e + 1074).toNat, by unfold minExponent at h; omega⟩
    have hp : (2 : ℚ) ^ e * 2 ^ 1074 = 2 ^ k := by
      rw [hk, ← zpow_natCast, ← zpow_add₀ two_ne_zero, ← zpow_natCast]
      congr 1
      push_cast
      ring
    have he : (e + 1074).toNat = k := by omega
    refine ⟨_, rfl, ?_⟩
    rw [he, worth, mul_assoc _ _ ((2 : ℚ) ^ 1074), hp]
    cases s <;> simp

end Binary64

end EntityCatalog
