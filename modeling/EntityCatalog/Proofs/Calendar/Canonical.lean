import EntityCatalog.Calendar.Iso
import EntityCatalog.Proofs.Calendar.Date
import Mathlib.Data.List.Basic

namespace EntityCatalog

open Text Date

namespace Iso

variable {n : Nat} {rest : List Char}

theorem exists_padded_two (hn : n < 100) :
    ∃ a b, padded 2 n = [a, b] ∧ isAsciiDigit a ∧ isAsciiDigit b ∧ natOfDigits [a, b] = n := by
  have ⟨a, b, hp⟩ := List.length_eq_two.mp (length_padded (by decide) hn)
  have hd : ∀ c ∈ [a, b], isAsciiDigit c := fun c hc => isAsciiDigit_of_mem_padded (hp ▸ hc)
  exact ⟨a, b, hp, hd a (by simp), hd b (by simp), hp ▸ natOfDigits_padded⟩

theorem readTwo_padded (hn : n < 100) : readTwo (padded 2 n ++ rest) = some (n, rest) := by
  have ⟨a, b, hp, ha, hb, hv⟩ := exists_padded_two hn
  simp [hp, readTwo, ha, hb, hv]

theorem day_lt (d : Date) : d.day < 100 := by
  have hd : daysInMonth d.year d.month ≤ 31 := by
    unfold daysInMonth
    split <;> (try split) <;> decide
  have := d.day_le
  omega

theorem exists_text (d : Date) :
    ∃ y₁ y₂ y₃ y₄ m₁ m₂ d₁ d₂, d.text = [y₁, y₂, y₃, y₄, '-', m₁, m₂, '-', d₁, d₂] ∧
      [y₁, y₂, y₃, y₄, m₁, m₂, d₁, d₂].all isAsciiDigit ∧
      natOfDigits [y₁, y₂, y₃, y₄] = d.year ∧ natOfDigits [m₁, m₂] = d.month ∧
      natOfDigits [d₁, d₂] = d.day := by
  have hy : (padded 4 d.year).length = 4 :=
    length_padded (by decide) (Nat.lt_succ_of_le d.year_le)
  have ⟨m₁, m₂, hm, hm₁, hm₂, hmv⟩ := exists_padded_two (n := d.month)
    (Nat.lt_of_le_of_lt d.month_le (by decide))
  have ⟨d₁, d₂, hd, hd₁, hd₂, hdv⟩ := exists_padded_two (day_lt d)
  have hyd : ∀ c ∈ padded 4 d.year, isAsciiDigit c := fun _ => isAsciiDigit_of_mem_padded
  have hyv : natOfDigits (padded 4 d.year) = d.year := natOfDigits_padded
  match hp : padded 4 d.year, hy with
  | [y₁, y₂, y₃, y₄], _ =>
    refine ⟨y₁, y₂, y₃, y₄, m₁, m₂, d₁, d₂, by simp [Date.text, hp, hm, hd], ?_, hp ▸ hyv, hmv, hdv⟩
    simpa [hp, hm₁, hm₂, hd₁, hd₂] using hyd

theorem readDate_text (d : Date) : readDate (d.text ++ rest) = some (d, rest) := by
  have ⟨_, _, _, _, _, _, _, _, ht, hd, hy, hm, hv⟩ := exists_text d
  simp only [ht, List.cons_append, List.nil_append, readDate, hd, if_true, hy, hm, hv,
    ofFields?_self, Option.map_some]

def fractionText (micros : Nat) : List Char :=
  if micros % 1000000 = 0 then [] else Moment.microText micros

variable {μ : Nat}

theorem lastExcess?_of_length {cs : List Char} (h : 2 ≤ cs.length) : lastExcess? cs = none := by
  match cs, h with
  | _ :: _ :: _, _ => rfl

theorem readFraction_padded {r : Reading} (hn : n < 1000000) :
    readFraction r (padded 6 n) = some { r with micro := n, excess := false } := by
  have hl : (padded 6 n).length = 6 := length_padded (by decide) hn
  have hd : (padded 6 n).all isAsciiDigit :=
    List.all_eq_true.mpr fun _ => isAsciiDigit_of_mem_padded
  have ht : (padded 6 n).take 6 = padded 6 n := List.take_of_length_le (Nat.le_of_eq hl)
  have hr : (padded 6 n).drop 6 = [] := List.drop_of_length_le (Nat.le_of_eq hl)
  simp [readFraction, ht, hr, hd, hl, natOfDigits_padded]

theorem readSecond_text {r : Reading} (hr : r.micro = 0) (he : r.excess = false) (hn : n < 100) :
    readSecond r true (padded 2 n ++ fractionText μ) =
      some { r with second := n, micro := μ % 1000000 } := by
  simp only [readSecond, readTwo_padded hn, fractionText, bind, Option.bind]
  -- Without microseconds the text ends with the seconds.
  by_cases hμ : μ % 1000000 = 0
  case pos => simp [lastExcess?, hμ, hr, he]
  case neg =>
    have hm : μ % 1000000 < 1000000 := Nat.mod_lt _ (by decide)
    have hl : (padded 6 (μ % 1000000)).length = 6 := length_padded (by decide) hm
    rw [if_neg hμ, lastExcess?_of_length (by simp [Moment.microText, hl])]
    simp only [Moment.microText, readFraction_padded hm, he]

theorem readTime_text (hμ : μ < microsPerDay) :
    readTime (Moment.clockText μ ++ fractionText μ) =
      some ⟨μ / 1000000 / 3600, μ / 1000000 / 60 % 60, μ / 1000000 % 60, μ % 1000000, false⟩ := by
  have hh : μ / 1000000 / 3600 < 100 := by simp only [microsPerDay] at hμ; omega
  have hm : μ / 1000000 / 60 % 60 < 100 := by omega
  have hs : μ / 1000000 % 60 < 100 := by omega
  have hml : (padded 2 (μ / 1000000 / 60 % 60)).length = 2 := length_padded (by decide) hm
  have hsl : (padded 2 (μ / 1000000 % 60)).length = 2 := length_padded (by decide) hs
  simp only [Moment.clockText, List.append_assoc, List.cons_append, readTime, readTwo_padded hh,
    bind, Option.bind]
  rw [lastExcess?_of_length (by simp [hml]; omega)]
  simp only [readMinute, readTwo_padded hm, bind, Option.bind]
  rw [lastExcess?_of_length (by simp [hsl]; omega)]
  exact readSecond_text rfl rfl hs

theorem not_startsOffset_text :
    ∀ c ∈ Moment.clockText μ ++ fractionText μ, (!startsOffset c) = true := by
  have hp : ∀ w n, ∀ c ∈ padded w n, (!startsOffset c) = true := by
    intro w n c hc
    have hd := isAsciiDigit_of_mem_padded hc
    simp only [startsOffset, Bool.not_eq_true', Bool.or_eq_false_iff, beq_eq_false_iff_ne]
    refine ⟨⟨?_, ?_⟩, ?_⟩ <;> rintro rfl <;> simp [isAsciiDigit] at hd
  have hf : ∀ c ∈ fractionText μ, (!startsOffset c) = true := by
    unfold fractionText
    split
    case isTrue => simp
    case isFalse => exact List.forall_mem_cons.mpr ⟨rfl, hp _ _⟩
  simp only [Moment.clockText, List.append_assoc, List.cons_append, List.forall_mem_append,
    List.forall_mem_cons]
  exact ⟨hp _ _, rfl, hp _ _, rfl, hp _ _, hf⟩

inductive Marks : List Char → Option Int → Prop
  | none : Marks [] none
  | universal : Marks ['Z'] (some 0)

variable {zone : List Char} {offset : Option Int}

theorem readClock_text (hμ : μ < microsPerDay) (hz : Marks zone offset) :
    readClock (Moment.clockText μ ++ fractionText μ ++ zone) =
      some (⟨μ / 1000000 / 3600, μ / 1000000 / 60 % 60, μ / 1000000 % 60, μ % 1000000, false⟩,
        offset) := by
  have ht : (Moment.clockText μ ++ fractionText μ ++ zone).takeWhile (!startsOffset ·) =
      Moment.clockText μ ++ fractionText μ := by
    rw [List.takeWhile_append_of_pos not_startsOffset_text]
    cases hz <;> simp [startsOffset]
  have hd : (Moment.clockText μ ++ fractionText μ ++ zone).dropWhile (!startsOffset ·) = zone := by
    rw [List.dropWhile_append_of_pos not_startsOffset_text]
    cases hz <;> simp [startsOffset]
  simp only [readClock, ht, hd, readTime_text hμ, bind, Option.bind]
  cases hz <;> rfl

theorem read?_localText (m : Moment) (hz : Marks zone offset) :
    read? (m.localText ++ zone) = some { m with offset } := by
  have ho : (offset.all fun o => o.natAbs < microsPerDay) = true := by cases hz <;> rfl
  have hf : m.localText =
      m.date.text ++ 'T' :: (Moment.clockText m.micros ++ fractionText m.micros) := by
    simp [Moment.localText, fractionText]
  have hm := m.micros_lt
  simp only [microsPerDay] at hm
  simp only [read?, hf, List.append_assoc, List.cons_append, readDate_text, bind, Option.bind]
  rw [← List.append_assoc, readClock_text m.micros_lt hz]
  simp only [Moment.ofFields?, ho, if_true]
  rw [dif_pos (by omega)]
  congr 2
  omega

end Iso

namespace Moment

variable {m u : Moment} {cs : List Char}

theorem ofReading?_reading (m : Moment) :
    ofReading? (m.reading : Int) = some { m with offset := none } := by
  have hd : m.reading / microsPerDay = m.date.ordinal := by
    rw [reading, Nat.add_comm, Nat.add_mul_div_right _ _ (by decide), Nat.div_eq_of_lt m.micros_lt,
      Nat.zero_add]
  have hr : m.reading % microsPerDay = m.micros := by
    rw [reading, Nat.add_comm, Nat.add_mul_mod_self_right, Nat.mod_eq_of_lt m.micros_lt]
  simp [ofReading?, hd, hr, Date.ofOrdinal?_ordinal, Int.not_lt.mpr (Int.natCast_nonneg _)]

theorem text_append_of_canonical? (h : m.canonical? = some cs) :
    ∃ d rest, cs = Date.text d ++ rest := by
  unfold canonical? at h
  split at h
  case h_1 => cases h; exact ⟨m.date, _, by rw [localText, List.append_assoc]⟩
  case h_2 =>
    have ⟨u, _, hu⟩ := Option.map_eq_some_iff.mp h
    exact ⟨u.date, _, by rw [← hu, localText, List.append_assoc, List.append_assoc]⟩

-- On the universal clock a moment is shown as it is, and so its text stays the same.
theorem canonical?_read? (h : m.canonical? = some cs) :
    ∃ n, Iso.read? cs = some n ∧ n.canonical? = some cs := by
  obtain ⟨date, micros, offset, hm⟩ := m
  cases offset
  case none =>
    cases h
    have hr := Iso.read?_localText ⟨date, micros, none, hm⟩ .none
    rw [List.append_nil] at hr
    exact ⟨_, hr, rfl⟩
  case some o =>
    simp only [canonical?, Option.map_eq_some_iff] at h
    have ⟨u, _, hu⟩ := h
    subst hu
    refine ⟨_, Iso.read?_localText u .universal, ?_⟩
    -- What is read has no distance to make up for, so that its reading is that of `u`.
    simp only [canonical?, universal?, reading, Int.sub_zero]
    exact congrArg (Option.map _) u.ofReading?_reading

end Moment

end EntityCatalog
