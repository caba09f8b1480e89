import EntityCatalog.Proofs.Calendar.Canonical
import Mathlib

namespace EntityCatalog

namespace Date

variable {n y m k : Nat} {d e : Date}

theorem eq_of_ofFields? (h : ofFields? y m k = some d) : d.year = y ∧ d.month = m ∧ d.day = k := by
  unfold ofFields? at h
  split at h <;> cases h
  exact ⟨rfl, rfl, rfl⟩

theorem ordinal_of_ofOrdinal? (h : ofOrdinal? n = some d) : d.ordinal = n := by
  simp only [ofOrdinal?, Option.bind_eq_some_iff] at h
  obtain ⟨y, hy, m, hm, hd⟩ := h
  have hy := List.find?_some hy
  have hm := List.find?_some hm
  simp only [decide_eq_true_eq] at hy hm
  obtain ⟨hyd, hmd, hdd⟩ := eq_of_ofFields? hd
  rw [ordinal, hyd, hmd, hdd]
  omega

theorem ordinal_inj : d.ordinal = e.ordinal ↔ d = e := by
  refine ⟨fun h => ?_, congrArg ordinal⟩
  exact Option.some.inj (ofOrdinal?_ordinal d ▸ ofOrdinal?_ordinal e ▸ congrArg ofOrdinal? h)

end Date

theorem Iso.Marks.zone_eq {zone zone' : List Char} {offset : Option Int} (h : Marks zone offset)
    (h' : Marks zone' offset) : zone = zone' := by
  cases h <;> cases h' <;> rfl

namespace Moment

variable {a b m n u : Moment} {cs ds : List Char} {i : Int}

def instant (m : Moment) : Int := m.reading - m.offset.getD 0

-- The same instant, or the same date and time of day if nothing is known of the clocks.
inductive Meets (a b : Moment) : Prop
  | instant {o p : Int} :
    a.offset = some o → b.offset = some p → (a.reading : Int) - o = b.reading - p → Meets a b
  | clock : a.offset = none → b.offset = none → a.date = b.date → a.micros = b.micros → Meets a b

theorem reading_inj : m.reading = n.reading ↔ m.date = n.date ∧ m.micros = n.micros := by
  have hm := m.micros_lt
  have hn := n.micros_lt
  rw [← Date.ordinal_inj]
  simp only [reading, microsPerDay] at *
  omega

theorem of_ofReading? (h : ofReading? i = some u) : (u.reading : Int) = i ∧ u.offset = none := by
  unfold ofReading? at h
  split at h <;> try contradiction
  case isFalse hi =>
    obtain ⟨d, hd, rfl⟩ := Option.map_eq_some_iff.mp h
    refine ⟨?_, rfl⟩
    simp only [reading, Date.ordinal_of_ofOrdinal? hd]
    have := Nat.div_add_mod' i.toNat microsPerDay
    omega

-- A canonical text shows a reading without a distance, and marks it if there was one.
theorem exists_shown (h : m.canonical? = some cs) :
    ∃ (u : Moment) (zone : List Char),
      cs = u.localText ++ zone ∧ Iso.Marks zone (m.offset.map fun _ => 0) ∧
      (u.reading : Int) = m.instant := by
  unfold canonical? at h
  cases ho : m.offset <;> simp only [ho] at h
  case none =>
    cases h
    exact ⟨m, [], by simp, .none, by simp [instant, ho]⟩
  case some o =>
    simp only [universal?, ho, Option.map_eq_some_iff] at h
    obtain ⟨u, hu, rfl⟩ := h
    exact ⟨u, ['Z'], rfl, .universal, by simp [instant, ho, of_ofReading? hu]⟩

theorem meets_iff :
    a.Meets b ↔ (a.offset.map fun _ => (0 : Int)) = b.offset.map (fun _ => 0) ∧
      a.instant = b.instant := by
  constructor
  case mp =>
    rintro (⟨ha, hb, h⟩ | ⟨ha, hb, hd, hm⟩)
    case instant => simpa [ha, hb, Moment.instant] using h
    case clock => simpa [ha, hb, Moment.instant] using reading_inj.mpr ⟨hd, hm⟩
  case mpr =>
    rintro ⟨ho, hi⟩
    cases ha : a.offset <;> cases hb : b.offset <;>
      simp only [ha, hb, reduceCtorEq, Option.map] at ho
    case none.none =>
      obtain ⟨hd, hm⟩ := reading_inj.mp (by simpa [Moment.instant, ha, hb] using hi)
      exact .clock ha hb hd hm
    case some.some => exact .instant ha hb (by simpa [Moment.instant, ha, hb] using hi)

theorem localText_append_inj {zone zone' : List Char} {offset offset' : Option Int}
    (hz : Iso.Marks zone offset) (hz' : Iso.Marks zone' offset') :
    m.localText ++ zone = n.localText ++ zone' ↔ offset = offset' ∧ m.reading = n.reading := by
  rw [reading_inj]
  constructor
  case mp =>
    intro h
    have hr := Iso.read?_localText m hz
    rw [h, Iso.read?_localText n hz', Option.some.injEq, Moment.mk.injEq] at hr
    exact ⟨hr.2.2.symm, hr.1.symm, hr.2.1.symm⟩
  case mpr =>
    rintro ⟨ho, hd, hm⟩
    subst ho
    simp only [localText, hd, hm, hz.zone_eq hz']

theorem canonical?_inj (ha : a.canonical? = some cs) (hb : b.canonical? = some ds) :
    cs = ds ↔ a.Meets b := by
  obtain ⟨u, zone, rfl, hz, hu⟩ := exists_shown ha
  obtain ⟨v, zone', rfl, hz', hv⟩ := exists_shown hb
  rw [localText_append_inj hz hz', meets_iff, ← hu, ← hv, Int.natCast_inj]

end Moment

end EntityCatalog
