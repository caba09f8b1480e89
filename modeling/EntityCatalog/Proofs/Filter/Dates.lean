import EntityCatalog.Proofs.Calendar.Instant
import EntityCatalog.Proofs.Filter.Search
import EntityCatalog.Proofs.Filter.Shape
import EntityCatalog.Proofs.Validation.Admission
import Mathlib

namespace EntityCatalog

open Text

structure Moment.IsWrittenAs (m : Moment) (s : String) : Prop where
  read   : Iso.read? s.toList = some m
  inside : m.canonical?.isSome

def Moment.storedText (s : String) : String :=
  (((Iso.read? s.toList).bind canonical?).map String.ofList).getD s

namespace Moment.IsWrittenAs

variable {a b m : Moment} {s t : String} (h : m.IsWrittenAs s)

include h

theorem canonical?_eq : m.canonical? = some (storedText s).toList := by
  obtain ⟨cs, hc⟩ := Option.isSome_iff_exists.mp h.inside
  simp [storedText, h.read, hc]

omit h in
theorem storedText_inj (ha : a.IsWrittenAs s) (hb : b.IsWrittenAs t) :
    storedText s = storedText t ↔ a.Meets b := by
  rw [← String.toList_inj, canonical?_inj ha.canonical?_eq hb.canonical?_eq]

theorem storedText_ne_empty : storedText s ≠ "" := by
  intro he
  obtain ⟨d, rest, hd⟩ := text_append_of_canonical? h.canonical?_eq
  obtain ⟨_, _, _, _, _, _, _, _, ht, _⟩ := Iso.exists_text d
  simp [he, ht] at hd

theorem shape_canonical? : (Shape.value s.toList).canonical? = some (.text (storedText s)) := by
  rw [Shape.value_of_read? h.read, Value.canonical?, h.canonical?_eq, Option.map_some,
    String.ofList_toList]

end Moment.IsWrittenAs

namespace Field

variable {f g : Field} {fs : List Field} {v : Validator} {extent : Extent} {d out : Document}
  {a : Moment} {s : String}

theorem takes_text_iff (ht : f.type = .known .date) {w : Value} :
    f.Takes (.text s) w ↔
      (∃ m : Moment, m.IsWrittenAs s) ∧ w = .text (Moment.storedText s) := by
  constructor
  case mp =>
    intro hw
    cases hw
    case date m cs _ hc hd =>
      cases hd
      case text hr =>
        have hm : m.IsWrittenAs s := ⟨hr, by simp [hc]⟩
        have he := hc.symm.trans hm.canonical?_eq
        exact ⟨⟨m, hm⟩, by simp [Option.some.inj he]⟩
    all_goals simp_all
  case mpr =>
    rintro ⟨⟨m, hm⟩, rfl⟩
    have hw := Takes.date ht (.text hm.read) hm.canonical?_eq
    rwa [String.ofList_toList] at hw

theorem get?_of_apply (hf : AreAccepted fs) (hg : Validator.generate fs = .ok v) (hm : f ∈ fs)
    (ht : f.type = .known .date) (hd : d.get? f.name = some (.text s))
    (h : v.apply extent (.object d) = .ok out) :
    out.get? f.name = some (.text (Moment.storedText s)) :=
  Validator.get?_of_apply hf hg h hm hd fun _ hw => ((takes_text_iff ht).mp hw).2

theorem exists_apply_iff (hf : AreAccepted fs) (hg : Validator.generate fs = .ok v) (hm : f ∈ fs)
    (ht : f.type = .known .date) :
    (∃ out, v.apply .changes (.object [(f.name, .text s)]) = .ok out) ↔
      ∃ m : Moment, m.IsWrittenAs s := by
  have hu : f.effective? .changes [(f.name, .text s)] = some (.text s) := by
    simp [effective?, Document.get?_cons]
  constructor
  case mp =>
    rintro ⟨out, ho⟩
    obtain ⟨w, hw, _⟩ := Validator.exists_takes hf hg ho hm hu
    exact ((takes_text_iff ht).mp hw).1
  case mpr =>
    intro hw
    exact Validator.exists_apply_single hf hg hm ((takes_text_iff ht).mpr ⟨hw, rfl⟩)

end Field

namespace Predicate

variable {d : Document} {path x y : String} {xs : List String}

theorem holds_equals_text_iff (h : d.get? path = some (.text x)) :
    (equals path (.text y)).holds d ↔ x = y := by
  have hp : d.present? path = some (.text x) := by simp [Document.present?, h]
  simp [holds, hp, Value.matchesSame, Value.isBool, Value.same]

theorem holds_anyOf_text_iff (h : d.get? path = some (.text x)) :
    (anyOf path (xs.map .text)).holds d ↔ x ∈ xs := by
  have hp : d.present? path = some (.text x) := by simp [Document.present?, h]
  simp [holds, hp, Value.matchesSame, Value.isBool, Value.same]

-- A predicate that is true of a record made from a text of a moment, if and only if something is
-- true of the moment.
def FindsDates (p : Predicate) (fs : List Field) (f : Field) (q : Moment → Prop) : Prop :=
  ∀ v, Validator.generate fs = .ok v → ∀ extent (d out : Document) s (a : Moment),
    d.get? f.name = some (.text s) → a.IsWrittenAs s → v.apply extent (.object d) = .ok out →
      (p.holds out ↔ q a)

end Predicate

namespace Moment.IsWrittenAs

variable {m : Moment} {t : String} (h : m.IsWrittenAs t)

include h

theorem isToken (hv : Phrase.IsValue t.toList) (hc : ',' ∉ t.toList) :
    Phrase.IsToken t.toList where
  single := hc
  whole  := hv.whole
  first  := by
    obtain ⟨y₁, _, _, _, _, he, hd⟩ := Shape.exists_of_read? h.read
    obtain ⟨hl, hu⟩ := toNat_of_isAsciiDigit (hd y₁ List.mem_cons_self)
    simp only [Char.reduceToNat] at hl hu
    rw [he]
    simp [startsBlank, isBlank]
    omega
  last   := hv.last

end Moment.IsWrittenAs

namespace Query

open Moment

section One

variable {fs : List Field} {f : Field} (hf : Field.AreAccepted fs) (hm : f ∈ fs)
  (ht : f.type = .known .date)

include hf hm ht

theorem parseSearch_eq_date {t : String} {b : Moment} (hb : b.IsWrittenAs t)
    (hv : Phrase.IsValue t.toList) :
    ∃ p, parseSearch fs (f.name ++ ":eq" ++ t) = .ok p ∧ p.FindsDates fs f fun a => a.Meets b := by
  have he : f.name ++ ":eq" ++ t = f.name ++ ":" ++ Operator.equals.token ++ t := by
    rw [← String.toList_inj]
    simp [Operator.token]
  have hp : parseSearch fs (f.name ++ ":" ++ Operator.equals.token ++ t) =
      .ok (.all [.equals f.name (.text (storedText t))]) :=
    parseSearch_led hf hm ht rfl rfl rfl hv (by simp) hb.shape_canonical?
  refine ⟨_, he ▸ hp, fun v hg extent d out s a hd ha ho => ?_⟩
  have hs := Field.get?_of_apply hf hg hm ht hd ho
  rw [Predicate.holds_all_singleton, Predicate.holds_equals_text_iff hs, ha.storedText_inj hb]

theorem parseSearch_in_dates {ts : List String}
    (hts : ∀ t ∈ ts, Phrase.IsValue t.toList ∧ ',' ∉ t.toList ∧ ∃ b : Moment, b.IsWrittenAs t) :
    ∃ p, parseSearch fs (f.name ++ ":in[" ++ ",".intercalate ts ++ "]") = .ok p ∧
      p.FindsDates fs f fun a => ∃ t ∈ ts, ∃ b : Moment, b.IsWrittenAs t ∧ a.Meets b := by
  by_cases hn : ts = []
  case pos =>
    subst hn
    have hk : ∀ t ∈ [""], (Shape.value t.toList).canonical? = some (.text t) := by
      simp only [List.mem_singleton, forall_eq]
      rfl
    have hp := parseSearch_anyOf hf hm ht rfl rfl (by simp)
      (by simpa using ⟨by simp, by simp, by decide, by decide⟩) hk
    refine ⟨_, hp, fun v hg extent d out s a hd ha ho => ?_⟩
    have hs := Field.get?_of_apply hf hg hm ht hd ho
    rw [Predicate.holds_all_singleton, Predicate.holds_anyOf_text_iff hs]
    simpa using ha.storedText_ne_empty
  case neg =>
    have hp := parseSearch_anyOf hf hm ht rfl rfl hn
      (fun t hi => (hts t hi).2.2.choose_spec.isToken (hts t hi).1 (hts t hi).2.1)
      (fun t hi => (hts t hi).2.2.choose_spec.shape_canonical?)
    rw [← Function.comp_def Value.text storedText, ← List.map_map] at hp
    refine ⟨_, hp, fun v hg extent d out s a hd ha ho => ?_⟩
    have hs := Field.get?_of_apply hf hg hm ht hd ho
    rw [Predicate.holds_all_singleton, Predicate.holds_anyOf_text_iff hs, List.mem_map]
    constructor
    case mp =>
      rintro ⟨t, hm, he⟩
      obtain ⟨_, _, b, hb⟩ := hts t hm
      exact ⟨t, hm, b, hb, (ha.storedText_inj hb).mp he.symm⟩
    case mpr =>
      rintro ⟨t, hm, b, hb, h⟩
      exact ⟨t, hm, ((ha.storedText_inj hb).mpr h).symm⟩

end One

-- A search finds a stored date by every text of the same instant or, if nothing is known of the
-- clocks, of the same date and time of day. The texts are those that a record may hold.
theorem parseSearch_findsDates {sources : List Field.Source} {fs : List Field} {f : Field}
    (hs : ∀ s ∈ sources, s.IsSound) (hr : Field.readSources sources = .ok fs) (hm : f ∈ fs)
    (ht : f.type = .known .date) :
    (∀ v, Validator.generate fs = .ok v → ∀ s,
      (∃ out, v.apply .changes (.object [(f.name, .text s)]) = .ok out) ↔
        ∃ a : Moment, a.IsWrittenAs s) ∧
    (∀ t (b : Moment), b.IsWrittenAs t → Phrase.IsValue t.toList →
      ∃ p, parseSearch fs (f.name ++ ":eq" ++ t) = .ok p ∧
        p.FindsDates fs f fun a => a.Meets b) ∧
    ∀ ts : List String,
      (∀ t ∈ ts, Phrase.IsValue t.toList ∧ ',' ∉ t.toList ∧ ∃ b : Moment, b.IsWrittenAs t) →
      ∃ p, parseSearch fs (f.name ++ ":in[" ++ ",".intercalate ts ++ "]") = .ok p ∧
        p.FindsDates fs f fun a => ∃ t ∈ ts, ∃ b : Moment, b.IsWrittenAs t ∧ a.Meets b := by
  have hf := Field.AreAccepted.of_readSources hs hr
  exact ⟨fun v hg s => Field.exists_apply_iff hf hg hm ht,
    fun t b hb hv => parseSearch_eq_date hf hm ht hb hv,
    fun ts hts => parseSearch_in_dates hf hm ht hts⟩

def due : Field := { name := "due", type := .known .date }

def evening : Moment := (Iso.read? "2023-12-31T23:30Z".toList).get (by decide +kernel)

def night : Moment := (Iso.read? "2024-01-01 00:30:00+01:00".toList).get (by decide +kernel)

theorem parseSearch_findsDates_due :
    ∃ v p out, Validator.generate [due] = .ok v ∧
      parseSearch [due] ("due" ++ ":eq" ++ "2023-12-31T23:30Z") = .ok p ∧
      v.apply .changes (.object [("due", .text "2024-01-01 00:30:00+01:00")]) = .ok out ∧
      p.holds out := by
  have hs : ∀ s ∈ [Field.Source.document (.object [("name", .text "due"), ("type", .text "date")])],
      s.IsSound := by
    simp [Field.Source.IsSound]
  have hr : Field.readSources
      [.document (.object [("name", .text "due"), ("type", .text "date")])] = .ok [due] := rfl
  have he : evening.IsWrittenAs "2023-12-31T23:30Z" :=
    ⟨(Option.some_get _).symm, by decide +kernel⟩
  have hn : night.IsWrittenAs "2024-01-01 00:30:00+01:00" :=
    ⟨(Option.some_get _).symm, by decide +kernel⟩
  obtain ⟨ha, hq, _⟩ := parseSearch_findsDates hs hr List.mem_cons_self rfl
  obtain ⟨v, hg⟩ := (Validator.generate_isOk_iff (Field.AreAccepted.of_readSources hs hr)).mpr rfl
  obtain ⟨out, ho⟩ := (ha v hg _).mpr ⟨night, hn⟩
  obtain ⟨p, hp, hx⟩ := hq _ _ he ⟨by decide, by decide⟩
  have hl : night.offset = some 3600000000 ∧ evening.offset = some 0 := by decide +kernel
  have hm : night.Meets evening := .instant hl.1 hl.2 (by decide +kernel)
  exact ⟨v, p, out, hg, hp, ho, (hx v hg _ _ _ _ night rfl hn ho).mpr hm⟩

end Query

end EntityCatalog
