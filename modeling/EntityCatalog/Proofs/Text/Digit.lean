import EntityCatalog.Text.Digit
import Mathlib

namespace EntityCatalog.Text

theorem natOfDigits_eq (cs : List Char) : natOfDigits cs = Nat.ofDigitChars 10 cs 0 := by
  simp only [natOfDigits, Nat.ofDigitChars, Nat.mul_comm]

variable {c d : Char} {cs ds xs ys : List Char}

theorem natOfDigits_cons :
    natOfDigits (c :: cs) = (c.toNat - '0'.toNat) * 10 ^ cs.length + natOfDigits cs := by
  have h : ∀ (cs : List Char) (n : Nat),
      Nat.ofDigitChars 10 cs n = n * 10 ^ cs.length + Nat.ofDigitChars 10 cs 0 := by
    intro cs
    induction cs
    case nil => simp
    case cons c cs hi =>
      intro n
      rw [Nat.ofDigitChars_cons, Nat.ofDigitChars_cons, hi, hi (10 * 0 + _), List.length_cons]
      ring
  rw [natOfDigits_eq, natOfDigits_eq, Nat.ofDigitChars_cons, h]
  simp

theorem toNat_of_isAsciiDigit (h : isAsciiDigit c) : '0'.toNat ≤ c.toNat ∧ c.toNat ≤ '9'.toNat := by
  simpa [isAsciiDigit, Char.le_def, UInt32.le_iff_toNat_le] using h

theorem natOfDigits_lt (h : ∀ c ∈ cs, isAsciiDigit c) : natOfDigits cs < 10 ^ cs.length := by
  induction cs
  case nil => decide
  case cons c cs hi =>
    obtain ⟨hc, hcs⟩ := List.forall_mem_cons.mp h
    obtain ⟨hl, hu⟩ := toNat_of_isAsciiDigit hc
    have hv : c.toNat - '0'.toNat ≤ 9 := by simp only [Char.reduceToNat] at *; omega
    have hm := Nat.mul_le_mul_right (10 ^ cs.length) hv
    have hi := hi hcs
    rw [natOfDigits_cons, List.length_cons, Nat.pow_succ]
    omega

-- What stands first decides, if what follows it is less than one of it.
theorem mul_add_lt_mul_add_iff {a b x y n : Nat} (hx : x < n) (hy : y < n) :
    a * n + x < b * n + y ↔ a < b ∨ a = b ∧ x < y := by
  rcases Nat.lt_trichotomy a b with h | rfl | h
  case inl =>
    have := Nat.mul_le_mul_right n h
    rw [Nat.succ_mul] at this
    omega
  case inr.inl => omega
  case inr.inr =>
    have := Nat.mul_le_mul_right n h
    rw [Nat.succ_mul] at this
    omega

theorem mul_add_eq_mul_add_iff {a b x y n : Nat} (hx : x < n) (hy : y < n) :
    a * n + x = b * n + y ↔ a = b ∧ x = y := by
  have h := mul_add_lt_mul_add_iff (a := a) (b := b) hx hy
  have h' := mul_add_lt_mul_add_iff (a := b) (b := a) hy hx
  omega

theorem append_lt_append_iff (hl : cs.length = ds.length) (hc : ∀ c ∈ cs, isAsciiDigit c)
    (hd : ∀ d ∈ ds, isAsciiDigit d) :
    cs ++ xs < ds ++ ys ↔
      natOfDigits cs < natOfDigits ds ∨ natOfDigits cs = natOfDigits ds ∧ xs < ys := by
  induction cs generalizing ds
  case nil =>
    cases List.length_eq_zero_iff.mp hl.symm
    simp
  case cons c cs hi =>
    cases ds
    case nil => cases hl
    case cons d ds =>
      obtain ⟨hc, hcs⟩ := List.forall_mem_cons.mp hc
      obtain ⟨hd, hds⟩ := List.forall_mem_cons.mp hd
      have hl : cs.length = ds.length := Nat.succ.inj hl
      have hcn := toNat_of_isAsciiDigit hc
      have hdn := toNat_of_isAsciiDigit hd
      have hx := natOfDigits_lt hcs
      have hy := hl ▸ natOfDigits_lt hds
      have hlt : c < d ↔ c.toNat - '0'.toNat < d.toNat - '0'.toNat := by
        rw [Char.lt_def, UInt32.lt_iff_toNat_lt]
        change c.toNat < d.toNat ↔ _
        omega
      have heq : c = d ↔ c.toNat - '0'.toNat = d.toNat - '0'.toNat := by
        rw [← Char.toNat_inj]
        omega
      rw [List.cons_append, List.cons_append, List.cons_lt_cons_iff, hi hl hcs hds,
        natOfDigits_cons, natOfDigits_cons, ← hl, mul_add_lt_mul_add_iff hx hy,
        mul_add_eq_mul_add_iff hx hy, hlt, heq]
      tauto

end EntityCatalog.Text
