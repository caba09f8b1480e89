import EntityCatalog.Calendar.Date
import EntityCatalog.Proofs.Lookup
import EntityCatalog.Proofs.Text.Digit
import Mathlib

namespace EntityCatalog

open Text

namespace Date

variable {width n : Nat}

theorem natOfDigits_padded : natOfDigits (padded width n) = n := by
  rw [natOfDigits_eq, padded, Nat.ofDigitChars_append, Nat.ofDigitChars_replicate_zero,
    Nat.mul_zero, Nat.ofDigitChars_ten_toDigits]

theorem isAsciiDigit_of_mem_padded {c : Char} (hc : c ∈ padded width n) : isAsciiDigit c := by
  rcases List.mem_append.mp hc with hc | hc
  case inl => rw [List.eq_of_mem_replicate hc]; decide
  case inr => exact Nat.isDigit_of_mem_toDigits (by decide) (by decide) hc

theorem length_padded (hw : 0 < width) (hn : n < 10 ^ width) : (padded width n).length = width := by
  have hl : (Nat.toDigits 10 n).length ≤ width :=
    (Nat.length_toDigits_le_iff (by decide) hw).mpr hn
  rw [padded, List.length_append, List.length_replicate, Nat.sub_add_cancel hl]

variable {y y' m m' : Nat}

theorem daysBeforeMonth_succ (hm : 1 ≤ m) :
    daysBeforeMonth y (m + 1) = daysBeforeMonth y m + daysInMonth y m := by
  obtain ⟨m, rfl⟩ := Nat.exists_eq_add_of_le' hm
  rfl

theorem daysBeforeMonth_le (hm : 1 ≤ m) (h : m ≤ m') :
    daysBeforeMonth y m ≤ daysBeforeMonth y m' := by
  induction m', h using Nat.le_induction
  case base => exact Nat.le_refl _
  case succ k hk hi =>
    rw [daysBeforeMonth_succ (Nat.le_trans hm hk)]
    exact Nat.le_trans hi (Nat.le_add_right _ _)

theorem daysBeforeMonth_thirteen : daysBeforeMonth y 13 = if isLeapYear y then 366 else 365 := by
  cases h : isLeapYear y <;> simp [daysBeforeMonth, daysInMonth, h]

-- A year is longer by a day if the quotients by 4, 100 and 400 grow by an odd number.
theorem daysBeforeYear_succ (hy : 1 ≤ y) :
    daysBeforeYear (y + 1) = daysBeforeYear y + daysBeforeMonth y 13 := by
  obtain ⟨k, rfl⟩ := Nat.exists_eq_add_of_le' hy
  have h₄ : (k + 1) / 4 = k / 4 + if (k + 1) % 4 = 0 then 1 else 0 := by split <;> omega
  have h₁ : (k + 1) / 100 = k / 100 + if (k + 1) % 100 = 0 then 1 else 0 := by split <;> omega
  have h₀ : (k + 1) / 400 = k / 400 + if (k + 1) % 400 = 0 then 1 else 0 := by split <;> omega
  have hq : k / 100 ≤ k / 4 := Nat.div_le_div_left (by decide) (by decide)
  have h₄₁ : (k + 1) % 100 = 0 → (k + 1) % 4 = 0 := by omega
  have h₁₀ : (k + 1) % 400 = 0 → (k + 1) % 100 = 0 := by omega
  rw [daysBeforeMonth_thirteen]
  simp only [daysBeforeYear, isLeapYear, Nat.add_sub_cancel, h₄, h₁, h₀, Bool.and_eq_true,
    beq_iff_eq, Bool.or_eq_true, bne_iff_ne, ne_eq]
  -- The remainders decide which quotients grow; what is left is linear.
  generalize k / 4 = a at *
  generalize k / 100 = b at *
  generalize k / 400 = c at *
  by_cases c₄ : (k + 1) % 4 = 0 <;> by_cases c₁ : (k + 1) % 100 = 0 <;>
    by_cases c₀ : (k + 1) % 400 = 0 <;>
    simp only [c₄, c₁, c₀, if_true, if_false, not_true_eq_false, not_false_eq_true, or_false,
      or_true, and_true, and_false, true_implies, false_implies] at * <;> omega

theorem daysBeforeYear_le (hy : 1 ≤ y) (h : y ≤ y') : daysBeforeYear y ≤ daysBeforeYear y' := by
  induction y', h using Nat.le_induction
  case base => exact Nat.le_refl _
  case succ k hk hi =>
    rw [daysBeforeYear_succ (Nat.le_trans hy hk)]
    exact Nat.le_trans hi (Nat.le_add_right _ _)

def yearDay (d : Date) : Nat := daysBeforeMonth d.year d.month + d.day

theorem yearDay_le (d : Date) : d.yearDay ≤ daysBeforeMonth d.year 13 := by
  calc d.yearDay
    _ ≤ daysBeforeMonth d.year (d.month + 1) := by
      rw [daysBeforeMonth_succ d.month_pos]
      exact Nat.add_le_add_left d.day_le _
    _ ≤ daysBeforeMonth d.year 13 :=
      daysBeforeMonth_le (Nat.le_add_left 1 _) (Nat.succ_le_succ d.month_le)

theorem yearDay_pos (d : Date) : 1 ≤ d.yearDay := Nat.le_trans d.day_pos (Nat.le_add_left _ _)

theorem ordinal_eq (d : Date) : d.ordinal = daysBeforeYear d.year + d.yearDay := Nat.add_assoc _ _ _

theorem year_le_of_between (h : daysBeforeYear y < n) (hn : n ≤ daysBeforeYear (y' + 1)) :
    y ≤ y' := by
  refine Nat.le_of_not_lt fun hlt => ?_
  have := daysBeforeYear_le (Nat.le_add_left 1 y') hlt
  omega

theorem month_le_of_between (h : daysBeforeMonth y m < n) (hn : n ≤ daysBeforeMonth y (m' + 1)) :
    m ≤ m' := by
  refine Nat.le_of_not_lt fun hlt => ?_
  have := daysBeforeMonth_le (y := y) (Nat.le_add_left 1 m') hlt
  omega

-- The year of a day number is at most two years after the guess.
theorem guess_near (d : Date) :
    (d.ordinal - 1) * 400 / 146097 ≤ d.year ∧ d.year ≤ (d.ordinal - 1) * 400 / 146097 + 2 := by
  have hp := d.year_pos
  have ho := d.ordinal_eq
  have hd := d.yearDay_pos
  have hl : d.yearDay ≤ 366 := by
    refine Nat.le_trans d.yearDay_le ?_
    rw [daysBeforeMonth_thirteen]
    split <;> decide
  simp only [daysBeforeYear] at ho
  omega

theorem ofFields?_self (d : Date) : ofFields? d.year d.month d.day = some d :=
  dif_pos ⟨d.year_pos, d.year_le, d.month_pos, d.month_le, d.day_pos, d.day_le⟩

theorem ofOrdinal?_ordinal (d : Date) : ofOrdinal? d.ordinal = some d := by
  have ho := d.ordinal_eq
  have hd := d.yearDay_pos
  have hl := d.yearDay_le
  have hs := daysBeforeYear_succ d.year_pos
  have hy : [(d.ordinal - 1) * 400 / 146097, (d.ordinal - 1) * 400 / 146097 + 1,
      (d.ordinal - 1) * 400 / 146097 + 2].find? (fun y =>
        1 ≤ y ∧ daysBeforeYear y < d.ordinal ∧ d.ordinal ≤ daysBeforeYear (y + 1)) =
      some d.year := by
    have hg := d.guess_near
    refine (List.find?_eq_some_iff_of_unique ?_).mpr ?_ <;>
      simp only [decide_eq_true_eq, List.mem_cons, List.not_mem_nil, or_false]
    case refine_1 =>
      intro y _ y' _ h h'
      exact Nat.le_antisymm (year_le_of_between h.2.1 h'.2.2) (year_le_of_between h'.2.1 h.2.2)
    case refine_2 => exact ⟨by omega, d.year_pos, by omega, by omega⟩
  -- In its year the date is told by its day of the year, month by month.
  have hm : (List.range' 1 12).find? (fun m =>
      daysBeforeMonth d.year m < d.yearDay ∧ d.yearDay ≤ daysBeforeMonth d.year (m + 1)) =
      some d.month := by
    refine (List.find?_eq_some_iff_of_unique ?_).mpr ?_ <;>
      simp only [decide_eq_true_eq, List.mem_range'_1]
    case refine_1 =>
      intro m _ m' _ h h'
      exact Nat.le_antisymm (month_le_of_between h.1 h'.2) (month_le_of_between h'.1 h.2)
    case refine_2 =>
      rw [daysBeforeMonth_succ d.month_pos, yearDay]
      exact ⟨⟨d.month_pos, Nat.lt_succ_of_le d.month_le⟩, Nat.lt_add_of_pos_right d.day_pos,
        Nat.add_le_add_left d.day_le _⟩
  have hk : d.ordinal - daysBeforeYear d.year = d.yearDay := by omega
  have hj : d.yearDay - daysBeforeMonth d.year d.month = d.day := Nat.add_sub_cancel_left ..
  simp only [ofOrdinal?, hy, Option.bind_some, hk, hm, hj, ofFields?_self]

end Date

end EntityCatalog
