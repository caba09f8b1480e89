import EntityCatalog.Proofs.Calendar.Instant
import Mathlib

namespace EntityCatalog

open Text Date

namespace Date

variable {w a b : Nat} {d e : Date} {xs ys : List Char}

theorem padded_append_lt_iff (hw : 0 < w) (ha : a < 10 ^ w) (hb : b < 10 ^ w) :
    padded w a ++ xs < padded w b ++ ys ↔ a < b ∨ a = b ∧ xs < ys := by
  have hl : (padded w a).length = (padded w b).length :=
    (length_padded hw ha).trans (length_padded hw hb).symm
  rw [append_lt_append_iff hl (fun _ => isAsciiDigit_of_mem_padded)
    (fun _ => isAsciiDigit_of_mem_padded), natOfDigits_padded, natOfDigits_padded]

theorem ordinal_lt_of_year_lt (h : d.year < e.year) : d.ordinal < e.ordinal := by
  have hd := d.yearDay_le
  have he := e.yearDay_pos
  have hs := daysBeforeYear_succ d.year_pos
  have hy := daysBeforeYear_le (Nat.le_add_left 1 d.year) h
  rw [ordinal_eq, ordinal_eq]
  omega

theorem ordinal_lt_of_month_lt (hy : d.year = e.year) (h : d.month < e.month) :
    d.ordinal < e.ordinal := by
  have hd := d.day_le
  have he := e.day_pos
  have hs := daysBeforeMonth_succ (y := d.year) d.month_pos
  have hm := daysBeforeMonth_le (y := d.year) (Nat.le_add_left 1 d.month) h
  rw [ordinal, ordinal, ← hy]
  omega

theorem ordinal_lt_of_day_lt (hy : d.year = e.year) (hm : d.month = e.month) (h : d.day < e.day) :
    d.ordinal < e.ordinal := by
  rw [ordinal, ordinal, hy, hm]
  omega

theorem ordinal_lt_iff :
    d.ordinal < e.ordinal ↔ d.year < e.year ∨ d.year = e.year ∧
      (d.month < e.month ∨ d.month = e.month ∧ d.day < e.day) := by
  constructor
  case mpr =>
    rintro (hy | ⟨hy, hm | ⟨hm, hd⟩⟩)
    case inl => exact ordinal_lt_of_year_lt hy
    case inr.inl => exact ordinal_lt_of_month_lt hy hm
    case inr.inr => exact ordinal_lt_of_day_lt hy hm hd
  case mp =>
    intro h
    rcases Nat.lt_trichotomy d.year e.year with hy | hy | hy
    case inl => exact .inl hy
    case inr.inr => exact absurd h (ordinal_lt_of_year_lt hy).asymm
    case inr.inl =>
      refine .inr ⟨hy, ?_⟩
      rcases Nat.lt_trichotomy d.month e.month with hm | hm | hm
      case inl => exact .inl hm
      case inr.inr => exact absurd h (ordinal_lt_of_month_lt hy.symm hm).asymm
      case inr.inl =>
        refine .inr ⟨hm, ?_⟩
        rw [ordinal, ordinal, hy, hm] at h
        omega

theorem text_append_lt_iff :
    d.text ++ xs < e.text ++ ys ↔ d.ordinal < e.ordinal ∨ d.ordinal = e.ordinal ∧ xs < ys := by
  have hd := Iso.day_lt d
  have he := Iso.day_lt e
  have hdm := d.month_le
  have hem := e.month_le
  have hdy := d.year_le
  have hey := e.year_le
  have heq : d = e ↔ d.year = e.year ∧ d.month = e.month ∧ d.day = e.day := by
    cases d; cases e; simp
  simp only [text, List.append_assoc, List.cons_append, ordinal_lt_iff, ordinal_inj, heq]
  rw [padded_append_lt_iff (by decide) (by omega) (by omega), List.cons_lt_cons_iff,
    padded_append_lt_iff (by decide) (by omega) (by omega), List.cons_lt_cons_iff,
    padded_append_lt_iff (by decide) (by omega) (by omega)]
  simp only [lt_irrefl, true_and, false_or]
  tauto

end Date

namespace Moment

variable {a b : Nat} {m n : Moment} {xs ys zone cs ds : List Char} {offset : Option Int}

theorem clockText_append_lt_iff (ha : a < microsPerDay) (hb : b < microsPerDay) :
    clockText a ++ xs < clockText b ++ ys ↔
      a / 1000000 < b / 1000000 ∨ a / 1000000 = b / 1000000 ∧ xs < ys := by
  have ha : a / 1000000 < 86400 := by simp only [microsPerDay] at ha; omega
  have hb : b / 1000000 < 86400 := by simp only [microsPerDay] at hb; omega
  simp only [clockText, List.append_assoc, List.cons_append]
  generalize a / 1000000 = s at *
  generalize b / 1000000 = t at *
  rw [padded_append_lt_iff (by decide) (by omega) (by omega), List.cons_lt_cons_iff,
    padded_append_lt_iff (by decide) (by omega) (by omega), List.cons_lt_cons_iff,
    padded_append_lt_iff (by decide) (by omega) (by omega)]
  -- Seconds are told by the hours, minutes and seconds that are shown.
  have hs : s = s / 3600 * 3600 + s / 60 % 60 * 60 + s % 60 ∧ s / 60 % 60 < 60 ∧ s % 60 < 60 := by
    omega
  have ht : t = t / 3600 * 3600 + t / 60 % 60 * 60 + t % 60 ∧ t / 60 % 60 < 60 ∧ t % 60 < 60 := by
    omega
  generalize s / 3600 = h, s / 60 % 60 = i, s % 60 = j at hs ⊢
  generalize t / 3600 = h', t / 60 % 60 = i', t % 60 = j' at ht ⊢
  by_cases hx : xs < ys <;>
    simp only [hx, lt_irrefl, true_and, false_or, and_true, and_false, or_false] <;> omega

theorem microText_append_lt_iff :
    microText a ++ xs < microText b ++ ys ↔
      a % 1000000 < b % 1000000 ∨ a % 1000000 = b % 1000000 ∧ xs < ys := by
  have ha : a % 1000000 < 10 ^ 6 := Nat.mod_lt _ (by decide)
  have hb : b % 1000000 < 10 ^ 6 := Nat.mod_lt _ (by decide)
  simp [microText, padded_append_lt_iff (by decide) ha hb]

theorem fractionText_append_lt_iff (hz : Iso.Marks zone offset) :
    Iso.fractionText a ++ zone < Iso.fractionText b ++ zone ↔
      if offset.isSome ∧ ¬(a % 1000000 = 0 ↔ b % 1000000 = 0) then b % 1000000 < a % 1000000
      else a % 1000000 < b % 1000000 := by
  have hp : ∀ cs, '.' :: cs < ['Z'] := fun _ => List.cons_lt_cons_iff.mpr (.inl (by decide))
  unfold Iso.fractionText
  by_cases ha : a % 1000000 = 0 <;> by_cases hb : b % 1000000 = 0
  · simp [ha, hb]
  · cases hz <;> simp [ha, hb, microText, (hp _).le, Nat.pos_of_ne_zero]
  · cases hz <;> simp [ha, hb, microText, hp, Nat.pos_of_ne_zero]
  · simp [ha, hb, microText_append_lt_iff]

theorem localText_append_lt_iff (hz : Iso.Marks zone offset) :
    m.localText ++ zone < n.localText ++ zone ↔
      if offset.isSome ∧ m.reading / 1000000 = n.reading / 1000000 ∧
          ¬(m.reading % 1000000 = 0 ↔ n.reading % 1000000 = 0) then n.reading < m.reading
      else m.reading < n.reading := by
  have hl : ∀ k : Moment, k.localText ++ zone =
      k.date.text ++ 'T' :: (clockText k.micros ++ (Iso.fractionText k.micros ++ zone)) := by
    intro k
    simp [localText, Iso.fractionText]
  -- A reading is a number of whole seconds, of the day and of the time of day, and a fraction.
  have hr : ∀ k : Moment, k.reading / 1000000 = k.date.ordinal * 86400 + k.micros / 1000000 ∧
      k.reading % 1000000 = k.micros % 1000000 ∧ k.micros / 1000000 < 86400 := by
    intro k
    have := k.micros_lt
    simp only [reading, microsPerDay] at *
    omega
  obtain ⟨hms, hmf, hmd⟩ := hr m
  obtain ⟨hns, hnf, hnd⟩ := hr n
  rw [hl, hl, text_append_lt_iff, List.cons_lt_cons_iff,
    clockText_append_lt_iff m.micros_lt n.micros_lt, fractionText_append_lt_iff hz,
    ← hmf, ← hnf]
  simp only [lt_irrefl, true_and, false_or]
  by_cases hf : m.reading % 1000000 = 0 ↔ n.reading % 1000000 = 0
  case pos =>
    simp only [hf, not_true_eq_false, and_false, if_false]
    omega
  case neg =>
    cases offset
    case none =>
      simp only [Option.isSome_none, Bool.false_eq_true, false_and, if_false]
      omega
    case some =>
      simp only [Option.isSome_some, hf, not_false_eq_true, true_and, and_true, if_true]
      split <;> omega

theorem fullText_append_lt_iff :
    m.fullText ++ zone < n.fullText ++ zone ↔ m.reading < n.reading := by
  have hl : ∀ k : Moment, k.fullText ++ zone =
      k.date.text ++ 'T' :: (clockText k.micros ++ (microText k.micros ++ zone)) := by
    intro k
    simp [fullText]
  have hm := m.micros_lt
  have hn := n.micros_lt
  rw [hl, hl, text_append_lt_iff, List.cons_lt_cons_iff, clockText_append_lt_iff hm hn,
    microText_append_lt_iff]
  simp only [lt_irrefl, true_and, false_or, and_false, or_false, reading, microsPerDay] at *
  omega

-- Instants of one second, one of them at its very beginning, on clocks with a distance.
def Crosses (m n : Moment) : Prop :=
  m.offset.isSome ∧ n.offset.isSome ∧ m.instant / 1000000 = n.instant / 1000000 ∧
    ¬(m.instant % 1000000 = 0 ↔ n.instant % 1000000 = 0)

instance : Decidable (m.Crosses n) := inferInstanceAs (Decidable (_ ∧ _ ∧ _ ∧ _))

theorem canonical?_lt_iff (hm : m.canonical? = some cs) (hn : n.canonical? = some ds)
    (h : m.offset.isSome = n.offset.isSome) :
    cs < ds ↔ if m.Crosses n then n.instant < m.instant else m.instant < n.instant := by
  obtain ⟨u, zone, rfl, hz, hu⟩ := exists_shown hm
  obtain ⟨v, zone', rfl, hz', hv⟩ := exists_shown hn
  have ho : (m.offset.map fun _ => (0 : Int)) = n.offset.map fun _ => 0 := by
    cases hmo : m.offset <;> cases hno : n.offset <;> simp [hmo, hno] at h ⊢
  have he : zone = zone' := hz.zone_eq (ho ▸ hz')
  have hc : m.Crosses n ↔ (m.offset.map fun _ => (0 : Int)).isSome ∧
      u.reading / 1000000 = v.reading / 1000000 ∧
        ¬(u.reading % 1000000 = 0 ↔ v.reading % 1000000 = 0) := by
    simp only [Crosses, ← hu, ← hv, ← h, Option.isSome_map, and_self_left]
    refine and_congr_right fun _ => ?_
    omega
  rw [← he, localText_append_lt_iff hz, ← hu, ← hv]
  simp only [hc, Int.ofNat_lt]

end Moment

end EntityCatalog
