import EntityCatalog.Proofs.Numeric.Nearest
import EntityCatalog.Proofs.Validation.Admission
import Mathlib

namespace EntityCatalog

inductive Value.IsReadAs : Value → ℚ → Binary64 → Prop
  | int {a : Int} {x} : Binary64.ofInt? a = some x → IsReadAs (.int a) a x
  | real {x : Binary64} : x.isInRange → Binary64.Has x.worth → IsReadAs (.real x) x.worth x

namespace Value.IsReadAs

variable {u w : Value} {q r : ℚ} {x y : Binary64}

theorem read (h : u.IsReadAs q x) : Reads.real u = .ok x := by
  cases h
  case int ha => simp [Reads.real, ha]
  case real => rfl

theorem isInRange (h : u.IsReadAs q x) : x.isInRange := by
  cases h
  case int ha => exact (Binary64.isNearest_ofInt? ha).1
  case real hx _ => exact hx

theorem isNearest (h : u.IsReadAs q x) : Binary64.IsNearest q x.worth := by
  cases h
  case int ha => exact (Binary64.isNearest_ofInt? ha).2.1
  case real _ hx => exact .refl hx

theorem exists_int (h : u.IsReadAs q x) (hq : ¬Binary64.Has q) :
    ∃ a i : Int, q = a ∧ Binary64.ofInt? a = some x ∧ x.worth = i := by
  cases h
  case int a ha =>
    obtain ⟨i, hi⟩ := (Binary64.isNearest_ofInt? ha).2.2
    exact ⟨a, i, rfl, ha, hi⟩
  case real _ hx => contradiction

theorem eq_or_int (h : u.IsReadAs q x) : x.worth = q ∨ ∃ a i : Int, q = a ∧ x.worth = i := by
  by_cases hq : Binary64.Has q
  case pos => exact .inl (h.isNearest.eq_iff.mpr hq)
  case neg =>
    obtain ⟨a, i, ha, _, hi⟩ := h.exists_int hq
    exact .inr ⟨a, i, ha, hi⟩

theorem mono (h : u.IsReadAs q x) (h' : w.IsReadAs r y) (hq : q ≤ r) : x.worth ≤ y.worth := by
  rcases hq.lt_or_eq with hl | rfl
  case inl => exact h.isNearest.mono h'.isNearest hl
  case inr =>
    by_cases hq : Binary64.Has q
    case pos => rw [h.isNearest.eq_iff.mpr hq, h'.isNearest.eq_iff.mpr hq]
    case neg =>
      obtain ⟨a, _, ha, hx, _⟩ := h.exists_int hq
      obtain ⟨b, _, hb, hy, _⟩ := h'.exists_int hq
      cases Int.cast_inj.mp (ha.symm.trans hb)
      cases hx.symm.trans hy
      exact le_rfl

end Value.IsReadAs

def Document.withBounds (d : Document) (u w : Value) : Document :=
  (d.set "min" u).set "max" w

namespace Field

variable {f : Field} {d e : Document} {position : Nat} {u w : Value} {q r : ℚ} {n : Int}
  {x y : Binary64} {v : Validator} {extent : Extent}

def bounded (f : Field) (x y : Binary64) : Field :=
  { f with minimum := .of (some x), maximum := .of (some y) }

theorem get?_withBounds {key : String} (hl : key ≠ "min") (hm : key ≠ "max") :
    (e.withBounds u w).get? key = e.get? key := by
  rw [Document.withBounds, Document.get?_set, if_neg hm, Document.get?_set, if_neg hl]

theorem optional_withBounds {α : Type} {name spaced : String} {read : Reads α}
    (hn : name ≠ "min" ∧ name ≠ "max") (hs : spaced ≠ "min" ∧ spaced ≠ "max") :
    optional (e.withBounds u w) name spaced read = optional e name spaced read := by
  rw [optional, optional, get?_withBounds hn.1 hn.2, get?_withBounds hs.1 hs.2]

theorem mandatory_withBounds {α : Type} {name : String} {read : Reads α}
    (hn : name ≠ "min" ∧ name ≠ "max") :
    mandatory (e.withBounds u w) name read = mandatory e name read := by
  rw [mandatory, mandatory, optional_withBounds hn hn]

theorem problem_ok {α : Type} {o : Option α} : problem (.ok o) = [] := rfl

theorem optional_bound {name : String} (hd : d.get? name = some u) (hu : u.IsReadAs q x) :
    optional d name name (Reads.orNull Reads.real) = .ok (some (some x)) := by
  have ho : Reads.orNull Reads.real u = .ok (some x) := by
    have hr := hu.read
    cases hu <;> simp [Reads.orNull, hr, Functor.map, Except.map]
  simp [optional, hd, ho]

-- Bounds matter to nothing that is read but themselves, and to the check of the whole.
theorem ofDocument_withBounds (he : ofDocument position e = .ok f) (hu : u.IsReadAs q x)
    (hw : w.IsReadAs r y) :
    ofDocument position (e.withBounds u w) =
      match (f.bounded x y).checked with
      | .ok g => .ok g
      | .error none => .error .overflow
      | .error (some flaw) =>
        .error (.rejected (.invalidField position [⟨"", (Misread.senseless flaw).message⟩])) := by
  have hl : (e.withBounds u w).get? "min" = some u := by
    simp [Document.withBounds, Document.get?_set]
  have hm : (e.withBounds u w).get? "max" = some w := by
    simp [Document.withBounds, Document.get?_set]
  unfold ofDocument at he ⊢
  dsimp only at he ⊢
  simp (disch := decide) only [mandatory_withBounds, optional_withBounds,
    optional_bound hl hu, optional_bound hm hw]
  split at he
  case isTrue => cases he
  case isFalse hp =>
    split at he <;> cases he
    case h_1.refl hc =>
      cases eq_of_checked hc
      simp only [Bool.not_eq_true, Bool.not_eq_false', List.isEmpty_iff, List.append_eq_nil_iff]
        at hp
      simp only [hp, problem_ok, List.append_nil, List.isEmpty_nil, Bool.not_true,
        Bool.false_eq_true, if_false]
      rfl

theorem textless_of_checked (h : f.checked = .ok f) (ht : f.type = .known .number) :
    nameFlaw? f.name = none ∧ f.minLength.value = none ∧ f.maxLength.value = none ∧
      f.pattern.value = none := by
  have hs : shapeFlaw? f = none := by
    unfold checked at h
    split at h <;> simp_all
  have hx : f.type.isTextual = false := ht ▸ rfl
  unfold shapeFlaw? at hs
  dsimp only at hs
  rw [Option.or_eq_none_iff] at hs
  obtain ⟨hn, hs⟩ := hs
  split at hs
  case isTrue => cases hs
  case isFalse hl => simpa [hn, hx, and_assoc] using hl

theorem checked_bounded (h : f.checked = .ok f) (ht : f.type = .known .number) :
    (f.bounded x y).checked =
      if y.position.lt x.position then .error (some s!"min exceeds max: {f.name}")
      else .ok (f.bounded x y) := by
  obtain ⟨hn, hl, hm, hp⟩ := textless_of_checked h ht
  have hs : shapeFlaw? (f.bounded x y) =
      if y.position.lt x.position then some s!"min exceeds max: {f.name}" else none := by
    simp [shapeFlaw?, bounded, Setting.of, hn, ht, hl, hm, hp, exceeds]
  have hp : (f.bounded x y).pattern.value = none := hp
  unfold checked
  rw [hs]
  by_cases hc : y.position.lt x.position
  case pos => simp only [hc, if_true]
  case neg => simp only [hc, Bool.false_eq_true, if_false, hp]

section Order

variable (he : ofDocument position e = .ok f) (ht : f.type = .known .number)
  (hu : u.IsReadAs q x) (hw : w.IsReadAs r y)

include he ht hu hw

theorem ofDocument_of_le (h : x.worth ≤ y.worth) :
    ofDocument position (e.withBounds u w) = .ok (f.bounded x y) := by
  have hl := (Binary64.isAt_position hw.isInRange).lt_iff (Binary64.isAt_position hu.isInRange)
  rw [ofDocument_withBounds he hu hw, checked_bounded (IsAccepted.of_ofDocument he).checked ht,
    if_neg (hl.not.mpr (not_lt.mpr h))]

theorem ofDocument_of_lt (h : y.worth < x.worth) :
    ofDocument position (e.withBounds u w) = .error (.rejected (.invalidField position
      [⟨"", (Misread.senseless s!"min exceeds max: {f.name}").message⟩])) := by
  have hl := (Binary64.isAt_position hw.isInRange).lt_iff (Binary64.isAt_position hu.isInRange)
  rw [ofDocument_withBounds he hu hw, checked_bounded (IsAccepted.of_ofDocument he).checked ht,
    if_pos (hl.mpr h)]

end Order

theorem bounds_iff (hx : x.isInRange) (hy : y.isInRange) :
    (f.bounded x y).Bounds (.ofInt n) ↔ x.worth ≤ n ∧ n ≤ y.worth := by
  have hl := (Position.isAt_ofInt n).lt_iff (Binary64.isAt_position hx)
  have hm := (Binary64.isAt_position hy).lt_iff (Position.isAt_ofInt n)
  rw [← not_lt, ← not_lt, ← hl, ← hm]
  constructor
  case mp => exact fun hb => ⟨hb.least x rfl, hb.most y rfl⟩
  case mpr =>
    rintro ⟨hl, hm⟩
    refine ⟨?_, ?_⟩
    case refine_1 => rintro _ ⟨⟩; exact hl
    case refine_2 => rintro _ ⟨⟩; exact hm

structure Carries (f : Field) (v : Validator) (extent : Extent) (d : Document) (n : Int) :
    Prop where
  read   : ∃ sources, (∀ s ∈ sources, Source.IsSound s) ∧ readSources sources = .ok v.fields
  made   : Validator.generate v.fields = .ok v
  mem    : f ∈ v.fields
  value  : d.get? f.name = some (.int n)
  others : ∀ g ∈ v.fields, g ≠ f → ¬g.IsBeyond extent d ∧ ¬g.Fails extent d

-- A field whose integers lie from one bound to another. Records with such integers are stored with
-- them, and those with others are refused for this field.
structure Enforces (f : Field) (q r : ℚ) : Prop where
  stored  : ∀ v extent d n, f.Carries v extent d n → q ≤ n → n ≤ r →
    ∃ out, v.apply extent (.object d) = .ok out ∧ out.get? f.name = some (.int n)
  refused : ∀ v extent d n, f.Carries v extent d n → ¬(q ≤ n ∧ n ≤ r) →
    ∃ problems, v.apply extent (.object d) = .error (.rejected (.invalidRecord problems)) ∧
      problems.map (·.place) = [f.name]

theorem not_isBeyond_of_number (ht : f.type = .known .number) : ¬f.IsBeyond extent d := by
  rintro ⟨hd, _⟩
  cases ht.symm.trans hd

theorem fails_iff_of_number (ht : f.type = .known .number) (hd : d.get? f.name = some (.int n)) :
    f.Fails extent d ↔ ¬f.Bounds (.ofInt n) := by
  have he : f.effective? extent d = some (.int n) := by simp [effective?, hd]
  constructor
  case mp =>
    intro hf hb
    exact (Takes.integer ht hb).not_fails he hf
  case mpr =>
    intro hb
    exact .unfit he (by simp) fun w hw => hb ((Takes.int_iff ht).mp hw).2

namespace Carries

variable (h : f.Carries v extent d n)

include h

theorem areAccepted : AreAccepted v.fields := by
  obtain ⟨sources, hs, hr⟩ := h.read
  exact .of_readSources hs hr

theorem not_isBeyond (ht : f.type = .known .number) : ∀ g ∈ v.fields, ¬g.IsBeyond extent d := by
  intro g hg
  by_cases hgf : g = f
  case pos => exact hgf ▸ not_isBeyond_of_number ht
  case neg => exact (h.others g hg hgf).1

theorem stored (ht : f.type = .known .number) (hb : f.Bounds (.ofInt n)) :
    ∃ out, v.apply extent (.object d) = .ok out ∧ out.get? f.name = some (.int n) := by
  have hx : ∀ g ∈ v.fields, ¬g.Fails extent d := by
    intro g hg
    by_cases hgf : g = f
    case pos => rw [hgf, fails_iff_of_number ht h.value]; exact not_not.mpr hb
    case neg => exact (h.others g hg hgf).2
  obtain ⟨out, ho⟩ := Validator.exists_applyObject h.areAccepted h.made (h.not_isBeyond ht) hx
  refine ⟨out, ho, (Validator.get?_eq_some_iff h.areAccepted h.made ho h.mem).mpr ?_⟩
  exact ⟨.int n, by simp [effective?, h.value], .integer ht hb⟩

theorem refused (ht : f.type = .known .number) (hb : ¬f.Bounds (.ofInt n)) :
    ∃ problems, v.apply extent (.object d) = .error (.rejected (.invalidRecord problems)) ∧
      problems.map (·.place) = [f.name] := by
  have hx : f.Fails extent d := (fails_iff_of_number ht h.value).mpr hb
  have hn := h.not_isBeyond ht
  exact ⟨_, Validator.applyObject_of_fails h.areAccepted h.made hn ⟨f, h.mem, hx⟩,
    Validator.places_eq_singleton h.areAccepted h.made hn h.mem hx fun g hg hne =>
      (h.others g hg hne).2⟩

end Carries

theorem exists_carries (h : ofDocument position d = .ok f) (ht : f.type = .known .number)
    (n : Int) : ∃ v extent d, f.Carries v extent d n := by
  have hr : readSources [.field f] = .ok [f] := rfl
  have hs : ∀ s ∈ [Source.field f], s.IsSound := by
    rintro _ (_ | ⟨_, ⟨⟩⟩)
    exact ⟨position, d, h⟩
  obtain ⟨v, hv⟩ := (Validator.generate_isOk_iff (AreAccepted.of_readSources hs hr)).mpr
    (by simp [fitsLengths, ht])
  have hf := Validator.fields_of_generate hv
  refine ⟨v, .changes, [(f.name, .int n)], ⟨_, hs, hf ▸ hr⟩, hf ▸ hv, ?_, ?_, ?_⟩
  case refine_1 => simp [hf]
  case refine_2 => simp [Document.get?]
  case refine_3 => simp [hf]

namespace Enforces

theorem of_bounds (ht : f.type = .known .number)
    (hb : ∀ n : Int, f.Bounds (.ofInt n) ↔ q ≤ n ∧ n ≤ r) : f.Enforces q r where
  stored  := fun _ _ _ n hc hl hm => hc.stored ht ((hb n).mpr ⟨hl, hm⟩)
  refused := fun _ _ _ n hc hn => hc.refused ht ((hb n).not.mpr hn)

theorem isOk_iff (h : f.Enforces q r) (hc : f.Carries v extent d n) :
    (∃ out, v.apply extent (.object d) = .ok out) ↔ q ≤ n ∧ n ≤ r := by
  constructor
  case mp =>
    rintro ⟨out, ho⟩
    by_contra hn
    obtain ⟨problems, hp, _⟩ := h.refused v extent d n hc hn
    cases ho.symm.trans hp
  case mpr =>
    rintro ⟨hl, hm⟩
    obtain ⟨out, ho, _⟩ := h.stored v extent d n hc hl hm
    exact ⟨out, ho⟩

-- The bounds can be told from the integers that are let through: a typed bound that is not kept as
-- it is, is an integer and is rounded to one.
theorem unique (h : f.Enforces x.worth y.worth) (h' : f.Enforces q r)
    (hc : ∀ n, ∃ v extent d, f.Carries v extent d n) (hu : u.IsReadAs q x) (hw : w.IsReadAs r y)
    (hq : q ≤ r) : x.worth = q ∧ y.worth = r := by
  have hn : ∀ n : Int, x.worth ≤ n ∧ n ≤ y.worth ↔ q ≤ n ∧ n ≤ r := by
    intro n
    obtain ⟨v, extent, d, hc⟩ := hc n
    exact (h.isOk_iff hc).symm.trans (h'.isOk_iff hc)
  have hx := hu.mono hw hq
  refine ⟨hu.eq_or_int.elim id ?_, hw.eq_or_int.elim id ?_⟩
  case refine_1 =>
    rintro ⟨a, i, ha, hi⟩
    have hl := (hn i).mp ⟨hi.le, hi ▸ hx⟩
    have hm := (hn a).mpr ⟨ha.le, ha ▸ hq⟩
    rw [ha, hi]
    exact le_antisymm (hi ▸ hm.1) (ha ▸ hl.1)
  case refine_2 =>
    rintro ⟨b, j, hb, hj⟩
    have hl := (hn j).mp ⟨hj ▸ hx, hj.ge⟩
    have hm := (hn b).mpr ⟨hb ▸ hq, hb.ge⟩
    rw [hb, hj]
    exact le_antisymm (hb ▸ hl.2) (hj ▸ hm.2)

end Enforces

-- Bounds of a field that can be read without them. They are enforced as the nearest numbers, and
-- so as they are if and only if binary64 has them. If they are out of order, then this is told
-- unless they are rounded to one number.
theorem ofDocument_bounds (he : ofDocument position e = .ok f) (ht : f.type = .known .number)
    (hu : u.IsReadAs q x) (hw : w.IsReadAs r y) :
    Binary64.IsNearest q x.worth ∧ Binary64.IsNearest r y.worth ∧
      (f.bounded x y).Enforces x.worth y.worth ∧
      (q ≤ r →
        ofDocument position (e.withBounds u w) = .ok (f.bounded x y) ∧
          ((f.bounded x y).Enforces q r ↔ Binary64.Has q ∧ Binary64.Has r)) ∧
      (r < q →
        if x.worth = y.worth then ofDocument position (e.withBounds u w) = .ok (f.bounded x y)
        else ∃ error, ofDocument position (e.withBounds u w) = .error (.rejected error) ∧
          error.code = "INVALID_SCHEMA" ∧
          error.message = s!"Invalid field definition at position {position}: " ++
            ("Value error, " ++ s!"min exceeds max: {f.name}")) := by
  have hn : (f.bounded x y).Enforces x.worth y.worth :=
    .of_bounds ht fun n => bounds_iff hu.isInRange hw.isInRange
  refine ⟨hu.isNearest, hw.isNearest, hn, fun hq => ?_, fun hr => ?_⟩
  case refine_1 =>
    have ho := ofDocument_of_le he ht hu hw (hu.mono hw hq)
    refine ⟨ho, fun h => ?_, fun ⟨hqh, hrh⟩ => ?_⟩
    case refine_1 =>
      obtain ⟨hx, hy⟩ := hn.unique h (exists_carries ho ht) hu hw hq
      exact ⟨hu.isNearest.eq_iff.mp hx, hw.isNearest.eq_iff.mp hy⟩
    case refine_2 => rwa [hu.isNearest.eq_iff.mpr hqh, hw.isNearest.eq_iff.mpr hrh] at hn
  case refine_2 =>
    by_cases hx : x.worth = y.worth
    case pos => rw [if_pos hx]; exact ofDocument_of_le he ht hu hw hx.le
    case neg =>
      have hl := lt_of_le_of_ne (hw.mono hu hr.le) (Ne.symm hx)
      rw [if_neg hx]
      exact ⟨_, ofDocument_of_lt he ht hu hw hl, rfl, rfl⟩

def reading : Field := { name := "reading", type := .known .number }

theorem ofDocument_reading : ofDocument 0 reading.toDocument = .ok reading := rfl

theorem ofDocument_bounds_reading :
    ∃ f, ofDocument 0 (reading.toDocument.withBounds (.int (-7)) (.int (2 ^ 64))) = .ok f ∧
      f.Enforces (-7) (2 ^ 64) ∧ ∀ n, ∃ v extent d, f.Carries v extent d n := by
  have ha : Binary64.ofInt? (-7) = some (.finite true (7 * 2 ^ 50) (-50)) := by decide +kernel
  have hb : Binary64.ofInt? (2 ^ 64) = some (.finite false (2 ^ 52) 12) := by decide +kernel
  obtain ⟨_, _, _, hr, _⟩ := ofDocument_bounds ofDocument_reading rfl (.int ha) (.int hb)
  obtain ⟨ho, he⟩ := hr (by norm_num)
  have hl : Binary64.IsExact (-7) := ⟨7, 0, by decide, by decide, rfl⟩
  have hm : Binary64.IsExact (2 ^ 64) := ⟨1, 64, by decide, by decide, rfl⟩
  exact ⟨_, ho, by exact_mod_cast he.mpr ⟨hl.has, hm.has⟩, exists_carries ho rfl⟩

theorem not_enforces_reading :
    ∃ f v, ofDocument 0 (reading.toDocument.withBounds (.int 9007199254740993)
        (.int 9007199254740993)) = .ok f ∧
      Validator.generate [f] = .ok v ∧
      ¬(v.apply .whole (.object [("reading", .int 9007199254740993)])).isOk := by
  have ha : Binary64.ofInt? 9007199254740993 = some (.finite false (2 ^ 52) 1) := by decide +kernel
  have ho := ofDocument_of_le ofDocument_reading rfl (.int ha) (.int ha) le_rfl
  exact ⟨_, _, ho, rfl, by decide +kernel⟩

end Field

end EntityCatalog
