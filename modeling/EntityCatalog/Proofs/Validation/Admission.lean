import EntityCatalog.Proofs.Validation.Fixpoint
import EntityCatalog.Proofs.Validation.Overflow
import Mathlib

namespace EntityCatalog

-- The moment that a value of a date field stands for; a date alone is its midnight.
inductive Value.Denotes : Value → Moment → Prop
  | moment {m} : Denotes (.moment m) m
  | date {d} : Denotes (.date d) (.midnight d)
  | text {s m} : Iso.read? s.toList = some m → Denotes (.text s) m

namespace Field

structure Suits (f : Field) (s : String) : Prop where
  least   : ∀ n ∈ f.minLength.value, n ≤ (s.length : Int)
  most    : ∀ n ∈ f.maxLength.value, (s.length : Int) ≤ n
  pattern : ∀ source ∈ f.pattern.value,
    ∃ program, Pattern.compile source = .ok program ∧ program.foundIn s

structure Bounds (f : Field) (p : Position) : Prop where
  least : ∀ x ∈ f.minimum.value, ¬p.lt x.position
  most  : ∀ x ∈ f.maximum.value, ¬x.position.lt p

-- The values that a field takes, each with the form in which it is stored.
inductive Takes (f : Field) : Value → Value → Prop
  | null : f.required.value = false → Takes f .null .null
  | string {s} : f.type = .known .string → f.Suits s → Takes f (.text s) (.text s)
  | email {s cs} :
    f.type = .known .email →
    Address.Email.normalize s.toList = .ok cs →
    f.Suits (String.ofList cs) →
    Takes f (.text s) (.text (String.ofList cs))
  | url {s} :
    f.type = .known .url → Address.Url.isValid s.toList → f.Suits s → Takes f (.text s) (.text s)
  | integer {n} : f.type = .known .number → f.Bounds (.ofInt n) → Takes f (.int n) (.int n)
  | real {x : Binary64} :
    f.type = .known .number → x.isFinite → f.Bounds x.position → Takes f (.real x) (.real x)
  | truth {b} : f.type = .known .boolean → Takes f (.bool b) (.bool b)
  | date {v m cs} :
    f.type = .known .date →
    v.Denotes m →
    m.canonical? = some cs →
    Takes f v (.text (String.ofList cs))

def effective? (f : Field) (extent : Extent) (d : Document) : Option Value :=
  (d.get? f.name).or
    (if extent = .whole ∧ f.hasDefault then some f.defaultValue.value else none)

-- A field that the data of a record do not fit.
inductive Fails (f : Field) (extent : Extent) (d : Document) : Prop
  | missing :
    f.effective? extent d = none → f.required.value → extent = .whole → Fails f extent d
  | null : f.effective? extent d = some .null → f.required.value → Fails f extent d
  | unfit {v} :
    f.effective? extent d = some v → v ≠ .null → (∀ w, ¬f.Takes v w) → Fails f extent d

theorem exists_takes_of_not_fails {f : Field} {extent : Extent} {d : Document} {v : Value}
    (h : ¬f.Fails extent d) (hv : f.effective? extent d = some v) : ∃ w, f.Takes v w := by
  by_contra ht
  by_cases hn : v = .null
  case neg => exact h (.unfit hv hn (not_exists.mp ht))
  case pos =>
    subst hn
    cases hq : f.required.value
    case true => exact h (.null hv hq)
    case false => exact ht ⟨_, .null hq⟩

def IsBeyond (f : Field) (extent : Extent) (d : Document) : Prop :=
  f.type = .known .date ∧
    ∃ v m, f.effective? extent d = some v ∧ v.Denotes m ∧ m.canonical? = none

end Field

theorem Iso.beginsDate_of_read? {cs : List Char} {m : Moment} (h : read? cs = some m) :
    ValueRule.beginsDate cs := by
  unfold read? readDate at h
  simp only [bind, Option.bind_eq_some_iff] at h
  obtain ⟨_, h, _⟩ := h
  split at h <;> try contradiction
  case h_1 =>
    split at h <;> try contradiction
    case isTrue hd =>
      simpa [ValueRule.beginsDate, Text.isAsciiDigit, and_assoc] using hd

theorem ValueRule.momentOf?_eq_some_iff {v : Value} {m : Moment} :
    momentOf? v = some m ↔ v.Denotes m := by
  constructor
  case mp =>
    intro h
    cases v <;> simp only [momentOf?, reduceCtorEq] at h
    case moment => cases h; exact .moment
    case date => cases h; exact .date
    case text =>
      split at h <;> try contradiction
      case isTrue => exact .text h
  case mpr =>
    rintro (_ | _ | h)
    case moment => rfl
    case date => rfl
    case text => simp [momentOf?, Iso.beginsDate_of_read? h, h]

theorem TextBounds.fault?_eq_none_iff {b : TextBounds} {short long : Int → ValueFault}
    {s : String} :
    b.fault? short long s = none ↔
      (∀ n ∈ b.least, n ≤ (s.length : Int)) ∧ (∀ n ∈ b.most, (s.length : Int) ≤ n) ∧
        ∀ p ∈ b.pattern, p.program.foundIn s := by
  have hm : b.most.filter (· < (s.length : Int)) = none ↔ ∀ n ∈ b.most, (s.length : Int) ≤ n := by
    simp
  have hl : b.least.filter ((s.length : Int) < ·) = none ↔ ∀ n ∈ b.least, n ≤ (s.length : Int) := by
    simp
  rw [← hm, ← hl]
  unfold fault?
  split
  case h_1 hs => simp only [hs, reduceCtorEq, false_and, and_false]
  case h_2 hs => simp only [hs, reduceCtorEq, false_and]
  case h_3 hmn hln =>
    simp only [hmn, hln, true_and]
    cases b.pattern <;> simp

theorem TextBounds.suits_iff {f : Field} {b : TextBounds} {short long : Int → ValueFault}
    {s : String} (h : f.textBounds = .ok b) : b.fault? short long s = none ↔ f.Suits s := by
  have hp : ∃ p, f.textPattern = .ok p := by
    cases hp : f.textPattern
    case ok p => exact ⟨p, rfl⟩
    case error => simp [Field.textBounds, hp, bind, Except.bind] at h
  obtain ⟨p, hp⟩ := hp
  cases h.symm.trans (Field.textBounds_of_textPattern hp)
  rw [fault?_eq_none_iff]
  have hf : (∀ q ∈ p, q.program.foundIn s) ↔
      ∀ source ∈ f.pattern.value,
        ∃ program, Pattern.compile source = .ok program ∧ program.foundIn s := by
    unfold Field.textPattern at hp
    split at hp
    case h_1 hn => cases hp; simp [hn]
    case h_2 source hn =>
      split at hp <;> cases hp
      case h_1.refl hc => simp [hn, hc]
  rw [hf]
  constructor
  case mp =>
    rintro ⟨hl, hm, hp⟩
    exact ⟨hl, hm, hp⟩
  case mpr =>
    rintro ⟨hl, hm, hp⟩
    exact ⟨hl, hm, hp⟩

theorem TextBounds.check_eq_taken_iff {f : Field} {b : TextBounds}
    {short long : Int → ValueFault} {s : String} {w : Value} (h : f.textBounds = .ok b) :
    b.check short long s = .taken w ↔ f.Suits s ∧ w = .text s := by
  rw [← @suits_iff f b short long s h]
  unfold check
  cases hf : b.fault? short long s <;> simp [eq_comm]

theorem ValueRule.numberFault?_eq_none_iff {f : Field} {p : Position} :
    numberFault? f.minimum.value f.maximum.value p = none ↔ f.Bounds p := by
  have hl : f.minimum.value.filter (fun x => p.lt x.position) = none ↔
      ∀ x ∈ f.minimum.value, ¬p.lt x.position := by
    simp
  have hm : f.maximum.value.filter (fun x => x.position.lt p) = none ↔
      ∀ x ∈ f.maximum.value, ¬x.position.lt p := by
    simp
  have hb : f.Bounds p ↔ (∀ x ∈ f.minimum.value, ¬p.lt x.position) ∧
      ∀ x ∈ f.maximum.value, ¬x.position.lt p :=
    ⟨fun h => ⟨h.least, h.most⟩, fun h => ⟨h.1, h.2⟩⟩
  rw [hb, ← hl, ← hm]
  unfold numberFault?
  split <;> simp_all

namespace Field.Takes

variable {f : Field} {v w : Value}

theorem ne_null (h : f.Takes v w) (hq : f.required.value) : v ≠ .null := by
  rintro rfl
  cases h
  case null hn => simp [hq] at hn
  case date hd => cases hd

theorem canonical?_ne_none (h : f.Takes v w) (ht : f.type = .known .date) {m : Moment}
    (hd : v.Denotes m) : m.canonical? ≠ none := by
  cases h
  case null => cases hd
  case date m' _ hc hd' =>
    have hm := ValueRule.momentOf?_eq_some_iff.mpr hd
    rw [ValueRule.momentOf?_eq_some_iff.mpr hd', Option.some.injEq] at hm
    simp [← hm, hc]
  all_goals simp_all

theorem int_iff (ht : f.type = .known .number) {n : Int} :
    f.Takes (.int n) w ↔ w = .int n ∧ f.Bounds (.ofInt n) := by
  constructor
  case mp =>
    intro h
    cases h
    case integer hb => exact ⟨rfl, hb⟩
    case date hd => cases hd
  case mpr =>
    rintro ⟨rfl, hb⟩
    exact .integer ht hb

theorem not_fails (h : f.Takes v w) {extent : Extent} {d : Document}
    (hv : f.effective? extent d = some v) : ¬f.Fails extent d := by
  rintro (⟨hn, _, _⟩ | ⟨hn, hq⟩ | ⟨hn, _, ht⟩) <;> cases hv.symm.trans hn
  case null.refl => exact h.ne_null hq rfl
  case unfit.refl => exact ht _ h

end Field.Takes

namespace FieldRule.IsOf

variable {f : Field} {r : FieldRule} {v w : Value}

theorem rule_eq {t : FieldType} {b : TextBounds} (h : IsOf f r) (ht : f.type = .known t)
    (hb : f.textBounds = .ok b) :
    r.rule = match t with
      | .string => .text b
      | .number => .number f.minimum.value f.maximum.value
      | .boolean => .truth
      | .email => .email b
      | .url => .url b
      | .date => .date := by
  have hr := h.rule
  cases t <;>
    simp only [Field.valueRule, ht, hb, Functor.map, Except.map, Except.ok.injEq] at hr <;>
    exact hr.symm

theorem takes_of_check (h : IsOf f r) (hf : f.IsAccepted) (hc : r.check v = .taken w) :
    f.Takes v w := by
  obtain ⟨t, ht⟩ := hf.known
  obtain ⟨b, hb, _⟩ := hf.exists_textBounds
  unfold check at hc
  split at hc
  case isTrue hn =>
    obtain ⟨hv, hq⟩ := Bool.and_eq_true_iff.mp hn
    cases v <;> simp only [Value.isNull, Bool.false_eq_true] at hv
    case null => cases hc; exact .null (by simpa [h.required] using hq)
  case isFalse =>
    rw [h.rule_eq ht hb] at hc
    cases t
    case string =>
      cases v <;> simp only [ValueRule.check, reduceCtorEq] at hc
      case text s =>
        obtain ⟨hs, rfl⟩ := (TextBounds.check_eq_taken_iff hb).mp hc
        exact .string ht hs
    case email =>
      cases v <;> simp only [ValueRule.check, reduceCtorEq] at hc
      case text s =>
        split at hc <;> try contradiction
        case h_1 cs hn =>
          obtain ⟨hs, rfl⟩ := (TextBounds.check_eq_taken_iff hb).mp hc
          exact .email ht hn hs
    case url =>
      cases v <;> simp only [ValueRule.check, reduceCtorEq] at hc
      case text s =>
        split at hc <;> try contradiction
        case isTrue hu =>
          obtain ⟨hs, rfl⟩ := (TextBounds.check_eq_taken_iff hb).mp hc
          exact .url ht hu hs
    case number =>
      cases v <;> simp only [ValueRule.check, ValueRule.checkNumber, reduceCtorEq] at hc
      case int n =>
        split at hc <;> cases hc
        case h_2.refl hb => exact .integer ht (ValueRule.numberFault?_eq_none_iff.mp hb)
      case real x =>
        split at hc <;> try contradiction
        case isTrue hx =>
          split at hc <;> cases hc
          case h_2.refl hb => exact .real ht hx (ValueRule.numberFault?_eq_none_iff.mp hb)
    case boolean =>
      cases v <;> simp [ValueRule.check, Value.isBool] at hc
      case bool => exact hc ▸ .truth ht
    case date =>
      simp only [ValueRule.check, ValueRule.checkDate] at hc
      split at hc <;> try contradiction
      case h_2 m hm =>
        split at hc <;> cases hc
        case h_1.refl hs => exact .date ht (ValueRule.momentOf?_eq_some_iff.mp hm) hs

theorem check_of_takes (h : IsOf f r) (hf : f.IsAccepted) (ht : f.Takes v w) :
    r.check v = .taken w := by
  obtain ⟨b, hb, _⟩ := hf.exists_textBounds
  have hc {short long : Int → ValueFault} {s : String} (hs : f.Suits s) :
      b.check short long s = .taken (.text s) :=
    (TextBounds.check_eq_taken_iff hb).mpr ⟨hs, rfl⟩
  unfold check
  cases ht
  case null hq => simp [h.required, hq, Value.isNull]
  case string ht hs => simp [h.rule_eq ht hb, ValueRule.check, Value.isNull, hc hs]
  case email ht hn hs => simp [h.rule_eq ht hb, ValueRule.check, Value.isNull, hn, hc hs]
  case url ht hu hs => simp [h.rule_eq ht hb, ValueRule.check, Value.isNull, hu, hc hs]
  case integer ht hn =>
    simp [h.rule_eq ht hb, ValueRule.check, ValueRule.checkNumber, Value.isNull,
      ValueRule.numberFault?_eq_none_iff.mpr hn]
  case real ht hx hn =>
    simp [h.rule_eq ht hb, ValueRule.check, ValueRule.checkNumber, Value.isNull, hx,
      ValueRule.numberFault?_eq_none_iff.mpr hn]
  case truth ht => simp [h.rule_eq ht hb, ValueRule.check, Value.isNull, Value.isBool]
  case date m cs ht hs hm =>
    have hv : v.isNull = false := by cases hm <;> rfl
    simp [h.rule_eq ht hb, ValueRule.check, ValueRule.checkDate, hv,
      ValueRule.momentOf?_eq_some_iff.mpr hm, hs]

theorem check_eq_taken_iff (h : IsOf f r) (hf : f.IsAccepted) :
    r.check v = .taken w ↔ f.Takes v w :=
  ⟨h.takes_of_check hf, h.check_of_takes hf⟩

end FieldRule.IsOf

namespace Validator

variable {v : Validator} {fs : List Field} {f : Field} {r : FieldRule} {extent : Extent}
  {d out : Document} {key : String}

theorem get?_withDefaults_of_not_mem (h : key ∉ fs.map (·.name)) :
    (withDefaults fs d).get? key = d.get? key := by
  induction fs generalizing d
  case nil => rfl
  case cons g fs hi =>
    obtain ⟨hg, hfs⟩ := not_or.mp (List.mem_cons.not.mp h)
    rw [withDefaults_cons, hi hfs]
    split
    case isTrue => rw [Document.get?_set, if_neg hg]
    case isFalse => rfl

-- The default of one field says nothing of the others, since their names are different.
theorem get?_payloadOf (hn : (fs.map (·.name)).Nodup) (hf : f ∈ fs) :
    (payloadOf fs extent d).get? f.name = f.effective? extent d := by
  cases extent
  case changes => simp [payloadOf, Field.effective?]
  case whole =>
    change (withDefaults fs d).get? f.name = _
    induction fs generalizing d
    case nil => cases hf
    case cons g fs hi =>
      obtain ⟨hg, hn⟩ := List.nodup_cons.mp hn
      rw [withDefaults_cons]
      rcases List.mem_cons.mp hf with rfl | hf
      case inl =>
        rw [get?_withDefaults_of_not_mem hg]
        cases hh : d.has f.name
        case true =>
          obtain ⟨u, hu⟩ := Document.has_iff_get?.mp hh
          simp [Field.effective?, hu]
        case false =>
          have hu : d.get? f.name = none := by
            rw [Document.get?_eq_none_iff, ← Document.has_iff_mem_keys, hh]
            decide
          cases hd : f.hasDefault <;> simp [Field.effective?, hu, hd, Document.get?_set]
      case inr =>
        have hne : f.name ≠ g.name := fun he => hg (List.mem_map.mpr ⟨f, hf, he⟩)
        rw [hi hn hf, Field.effective?, Field.effective?]
        split
        case isTrue => rw [Document.get?_set, if_neg hne]
        case isFalse => rfl

end Validator

namespace FieldRule.IsOf

variable {f : Field} {r : FieldRule} {extent : Extent} {d payload : Document} {w : Value}
  (h : IsOf f r) (hf : f.IsAccepted) (hp : payload.get? f.name = f.effective? extent d)

include h hf hp

theorem taken?_eq_some_iff :
    r.taken? extent payload = some w ↔ ∃ u, f.effective? extent d = some u ∧ f.Takes u w := by
  simp only [FieldRule.taken?_eq_some_iff, h.name, hp, h.check_eq_taken_iff hf]

theorem verdict?_ne_overflow (hb : ¬f.IsBeyond extent d) :
    r.verdict? extent payload ≠ some .overflow := by
  intro hv
  unfold verdict? at hv
  rw [h.name, hp] at hv
  split at hv
  case h_2 => split at hv <;> cases hv
  case h_1 u hu =>
    obtain ⟨hr, m, hm, hc⟩ := FieldRule.check_eq_overflow_iff.mp (Option.some.inj hv)
    have ht : f.type = .known .date := hf.valueRule_eq_date_iff.mp (hr ▸ h.rule)
    exact hb ⟨ht, u, m, hu, ValueRule.momentOf?_eq_some_iff.mp hm, hc⟩

theorem exists_refused_iff (hb : ¬f.IsBeyond extent d) :
    (∃ fault, r.verdict? extent payload = some (.refused fault)) ↔ f.Fails extent d := by
  have ho := h.verdict?_ne_overflow hf hp hb
  unfold verdict? at ho ⊢
  rw [h.name, hp] at ho ⊢
  cases hu : f.effective? extent d
  case none =>
    constructor
    case mp =>
      rintro ⟨_, hv⟩
      dsimp only at hv
      split at hv <;> cases hv
      case isTrue.refl hq =>
        obtain ⟨hq, hx⟩ := Bool.and_eq_true_iff.mp hq
        exact .missing hu (h.required ▸ hq) (of_decide_eq_true hx)
    case mpr =>
      rintro (⟨_, hq, hx⟩ | ⟨hn, _⟩ | ⟨hn, _, _⟩)
      case missing => exact ⟨.missing, by simp [h.required, hq, hx]⟩
      all_goals cases hu.symm.trans hn
  case some u =>
    simp only [hu] at ho ⊢
    -- What no rule takes is refused, since it does not overflow.
    have hr : (∀ w, ¬f.Takes u w) → ∃ fault, some (r.check u) = some (.refused fault) := by
      intro ht
      cases hc : r.check u
      case taken w => exact absurd (h.takes_of_check hf hc) (ht w)
      case refused fault => exact ⟨fault, rfl⟩
      case overflow => exact absurd (congrArg some hc) ho
    constructor
    case mp =>
      rintro ⟨_, hc⟩
      have ht : ∀ w, ¬f.Takes u w := by
        intro w hw
        rw [h.check_of_takes hf hw] at hc
        cases hc
      by_cases hn : u = .null
      case neg => exact .unfit hu hn ht
      case pos =>
        subst hn
        refine .null hu (Bool.not_eq_false _ ▸ fun hq => ht .null (.null hq))
    case mpr =>
      rintro (⟨hn, _, _⟩ | ⟨hn, hq⟩ | ⟨hn, _, ht⟩) <;> cases hu.symm.trans hn
      case unfit.refl => exact hr ht
      case null.refl =>
        exact hr fun w hw => hw.ne_null hq rfl

end FieldRule.IsOf

namespace Validator

variable {v : Validator} {fs : List Field} {f : Field} {extent : Extent} {d out : Document}
  {name : String}

theorem keys_verdicts_sublist :
    ((v.verdicts extent d).map (·.1)).Sublist (v.rules.map (·.name)) := by
  refine List.filterMap_map_sublist fun r _ x hx => ?_
  obtain ⟨_, _, rfl⟩ := Option.map_eq_some_iff.mp hx
  rfl

theorem places_sublist :
    ((problemsOf (v.verdicts extent d)).map (·.place)).Sublist (v.rules.map (·.name)) := by
  refine .trans (List.filterMap_map_sublist fun x _ p hp => ?_) keys_verdicts_sublist
  dsimp only at hp
  split at hp <;> cases hp
  rfl

theorem mem_places_iff :
    name ∈ (problemsOf (v.verdicts extent d)).map (·.place) ↔
      ∃ r ∈ v.rules, r.name = name ∧
        ∃ fault, r.verdict? extent (v.payload extent d) = some (.refused fault) := by
  simp only [problemsOf, List.mem_map, List.mem_filterMap]
  constructor
  case mp =>
    rintro ⟨_, ⟨⟨n, x⟩, hx, hp⟩, rfl⟩
    obtain ⟨r, hr, rfl, hv⟩ := mem_verdicts.mp hx
    cases x <;> simp only [reduceCtorEq, Option.some.injEq] at hp
    case refused fault => exact ⟨r, hr, hp ▸ rfl, fault, hv⟩
  case mpr =>
    rintro ⟨r, hr, rfl, fault, hv⟩
    exact ⟨_, ⟨(r.name, .refused fault), mem_verdicts.mpr ⟨r, hr, rfl, hv⟩, rfl⟩, rfl⟩

theorem exists_isOf (hf : Field.AreAccepted fs) (hg : generate fs = .ok v) (hm : f ∈ fs) :
    ∃ r ∈ v.rules, FieldRule.IsOf f r ∧ ∀ q ∈ v.rules, q.name = f.name → q = r := by
  obtain ⟨r, hr, ho⟩ := (rules_of_generate hf hg).exists_of_mem hm
  refine ⟨r, hr, ho, fun q hq hn => ?_⟩
  exact List.inj_on_of_nodup_map (nodup_names hf hg) hq hr (hn.trans ho.name.symm)

section Apply

variable (hf : Field.AreAccepted fs) (hg : generate fs = .ok v)

include hf hg

theorem get?_payload (hm : f ∈ fs) :
    (v.payload extent d).get? f.name = f.effective? extent d := by
  rw [payload_eq_payloadOf hg, get?_payloadOf hf.names hm]

theorem mem_places_iff_fails (hb : ¬f.IsBeyond extent d) (hm : f ∈ fs) :
    f.name ∈ (problemsOf (v.verdicts extent d)).map (·.place) ↔ f.Fails extent d := by
  obtain ⟨r, hr, ho, hu⟩ := exists_isOf hf hg hm
  rw [mem_places_iff, ← ho.exists_refused_iff (hf.accepted f hm) (get?_payload hf hg hm) hb]
  constructor
  case mp =>
    rintro ⟨q, hq, hn, hv⟩
    exact hu q hq hn ▸ hv
  case mpr => exact fun hv => ⟨r, hr, ho.name, hv⟩

theorem get?_eq_some_iff (h : v.applyObject extent d = .ok out) (hm : f ∈ fs) {w : Value} :
    out.get? f.name = some w ↔ ∃ u, f.effective? extent d = some u ∧ f.Takes u w := by
  obtain ⟨r, hr, ho, hu⟩ := exists_isOf hf hg hm
  rw [← ho.taken?_eq_some_iff (hf.accepted f hm) (get?_payload hf hg hm)]
  constructor
  case mp =>
    intro hw
    obtain ⟨q, hq, hn, ht⟩ := (mem_of_applyObject h).mp (Document.mem_of_get? hw)
    exact hu q hq hn ▸ ht
  case mpr =>
    intro ht
    refine Document.get?_of_mem (nodup_keys_of_applyObject (nodup_names hf hg) h) ?_
    exact (mem_of_applyObject h).mpr ⟨r, hr, ho.name, ht⟩

theorem exists_takes (h : v.applyObject extent d = .ok out) (hm : f ∈ fs) {u : Value}
    (hu : f.effective? extent d = some u) : ∃ w, f.Takes u w ∧ out.get? f.name = some w := by
  obtain ⟨r, hr, ho, _⟩ := exists_isOf hf hg hm
  have hv : r.verdict? extent (v.payload extent d) = some (r.check u) := by
    simp only [FieldRule.verdict?, ho.name, get?_payload hf hg hm, hu]
  obtain ⟨w, hw⟩ := (applyObject_eq_ok_iff.mp h).1 r hr _ hv
  have ht := ho.takes_of_check (hf.accepted f hm) hw
  exact ⟨w, ht, (get?_eq_some_iff hf hg h hm).mpr ⟨u, hu, ht⟩⟩

theorem get?_of_apply (h : v.apply extent (.object d) = .ok out) (hm : f ∈ fs) {u w : Value}
    (hu : d.get? f.name = some u) (hw : ∀ w', f.Takes u w' → w' = w) :
    out.get? f.name = some w := by
  have he : f.effective? extent d = some u := by simp [Field.effective?, hu]
  obtain ⟨w', ht, ho⟩ := exists_takes hf hg h hm he
  rw [ho, hw w' ht]

theorem not_overflows (hb : ∀ f ∈ fs, ¬f.IsBeyond extent d) :
    overflows (v.verdicts extent d) = false := by
  rw [Bool.eq_false_iff]
  intro ho
  obtain ⟨f, hm, ht, u, m, hu, hd, hc⟩ := (overflows_verdicts_iff hf hg).mp ho
  rw [get?_payload hf hg hm] at hu
  exact hb f hm ⟨ht, u, m, hu, ValueRule.momentOf?_eq_some_iff.mp hd, hc⟩

theorem applyObject_of_fails (hb : ∀ f ∈ fs, ¬f.IsBeyond extent d)
    (h : ∃ f ∈ fs, f.Fails extent d) :
    v.applyObject extent d =
      .error (.rejected (.invalidRecord (problemsOf (v.verdicts extent d)))) := by
  obtain ⟨f, hm, hff⟩ := h
  have hp := (mem_places_iff_fails hf hg (hb f hm) hm).mpr hff
  unfold applyObject
  simp only [not_overflows hf hg hb, Bool.false_eq_true, if_false]
  split
  case h_1 hn => simp [hn] at hp
  case h_2 => rfl

theorem places_eq_singleton (hb : ∀ g ∈ fs, ¬g.IsBeyond extent d) (hm : f ∈ fs)
    (hx : f.Fails extent d) (ho : ∀ g ∈ fs, g ≠ f → ¬g.Fails extent d) :
    (problemsOf (v.verdicts extent d)).map (·.place) = [f.name] := by
  have hs : ((problemsOf (v.verdicts extent d)).map (·.place)).Sublist (v.rules.map (·.name)) :=
    places_sublist
  refine List.perm_singleton.mp ((List.perm_ext_iff_of_nodup (hs.nodup (nodup_names hf hg))
    (List.nodup_singleton _)).mpr fun name => ?_)
  rw [List.mem_singleton]
  constructor
  case mp =>
    intro hp
    have hn := names_of_isOf (rules_of_generate hf hg) ▸ hs.subset hp
    obtain ⟨g, hgm, rfl⟩ := List.mem_map.mp hn
    by_contra hne
    exact ho g hgm (fun h => hne (h ▸ rfl)) ((mem_places_iff_fails hf hg (hb g hgm) hgm).mp hp)
  case mpr =>
    rintro rfl
    exact (mem_places_iff_fails hf hg (hb f hm) hm).mpr hx

theorem exists_applyObject (hb : ∀ f ∈ fs, ¬f.IsBeyond extent d)
    (h : ∀ f ∈ fs, ¬f.Fails extent d) : ∃ out, v.applyObject extent d = .ok out := by
  have hp : problemsOf (v.verdicts extent d) = [] := by
    refine List.eq_nil_iff_forall_not_mem.mpr fun p hp => ?_
    have hp : p.place ∈ (problemsOf (v.verdicts extent d)).map (·.place) := List.mem_map_of_mem hp
    have hn := names_of_isOf (rules_of_generate hf hg) ▸ places_sublist.subset hp
    obtain ⟨f, hm, he⟩ := List.mem_map.mp hn
    exact h f hm ((mem_places_iff_fails hf hg (hb f hm) hm).mp (he ▸ hp))
  unfold applyObject
  simp only [not_overflows hf hg hb, Bool.false_eq_true, if_false, hp]
  exact ⟨_, rfl⟩

theorem exists_apply_single (hm : f ∈ fs) {u w : Value} (ht : f.Takes u w) :
    ∃ out, v.apply .changes (.object [(f.name, u)]) = .ok out := by
  have hx : ∀ g ∈ fs, ∀ u', g.effective? .changes [(f.name, u)] = some u' → g = f ∧ u' = u := by
    intro g hgm u' hu
    rw [Field.effective?, Document.get?_cons] at hu
    by_cases hn : g.name = f.name
    case pos =>
      refine ⟨List.inj_on_of_nodup_map hf.names hgm hm hn, ?_⟩
      rw [if_pos hn] at hu
      exact (Option.some.inj hu).symm
    case neg =>
      rw [if_neg hn] at hu
      cases hu
  refine exists_applyObject hf hg (fun g hgm hb => ?_) (fun g hgm hb => ?_)
  case refine_1 =>
    obtain ⟨hk, u', m, hu, hd, hc⟩ := hb
    obtain ⟨rfl, rfl⟩ := hx g hgm u' hu
    exact ht.canonical?_ne_none hk hd hc
  case refine_2 =>
    obtain ⟨u', hu⟩ : ∃ u', g.effective? .changes [(f.name, u)] = some u' := by
      rcases hb with ⟨_, _, he⟩ | ⟨hu, _⟩ | ⟨hu, _, _⟩
      case missing => cases he
      all_goals exact ⟨_, hu⟩
    obtain ⟨rfl, rfl⟩ := hx g hgm u' hu
    exact ht.not_fails hu hb

end Apply

-- What validators do with objects. They are made of every list of fields that was read, if only
-- its lengths are counted in words; then each field fails, or gives its member, on its own.
theorem apply_fieldwise {sources : List Field.Source} (hs : ∀ s ∈ sources, s.IsSound)
    (hr : Field.readSources sources = .ok fs) :
    ((∃ v, generate fs = .ok v) ↔ fs.all Field.fitsLengths) ∧
    ∀ v, generate fs = .ok v → ∀ extent d, (∀ f ∈ fs, ¬f.IsBeyond extent d) →
      ((∃ f ∈ fs, f.Fails extent d) →
        ∃ problems, v.apply extent (.object d) = .error (.rejected (.invalidRecord problems)) ∧
          (problems.map (·.place)).Sublist (fs.map (·.name)) ∧
          ∀ f ∈ fs, f.name ∈ problems.map (·.place) ↔ f.Fails extent d) ∧
      ((∀ f ∈ fs, ¬f.Fails extent d) →
        ∃ out, v.apply extent (.object d) = .ok out ∧
          out.keys.Sublist (fs.map (·.name)) ∧
          (∀ f ∈ fs, f.name ∈ out.keys ↔ (f.effective? extent d).isSome) ∧
          ∀ f ∈ fs, ∀ w, out.get? f.name = some w ↔
            ∃ u, f.effective? extent d = some u ∧ f.Takes u w) := by
  have hf := Field.AreAccepted.of_readSources hs hr
  refine ⟨generate_isOk_iff hf, fun v hg extent d hb => ⟨fun hx => ?_, fun hx => ?_⟩⟩
  all_goals have hn := names_of_isOf (rules_of_generate hf hg)
  case refine_1 =>
    exact ⟨_, applyObject_of_fails hf hg hb hx, hn ▸ places_sublist,
      fun f hm => mem_places_iff_fails hf hg (hb f hm) hm⟩
  case refine_2 =>
    obtain ⟨out, ho⟩ := exists_applyObject hf hg hb hx
    refine ⟨out, ho, hn ▸ keys_sublist ho, fun f hm => ?_,
      fun f hm w => get?_eq_some_iff hf hg ho hm⟩
    simp only [← Document.has_iff_mem_keys, Document.has_iff_get?, get?_eq_some_iff hf hg ho hm,
      Option.isSome_iff_exists]
    constructor
    case mp =>
      rintro ⟨_, u, hu, _⟩
      exact ⟨u, hu⟩
    case mpr =>
      rintro ⟨u, hu⟩
      obtain ⟨w, hw⟩ := Field.exists_takes_of_not_fails (hx f hm) hu
      exact ⟨w, u, hu, hw⟩

def title : Field := { name := "title", type := .known .string, required := .of true }

def count : Field := { name := "count", type := .known .number, defaultValue := .of (.int 0) }

def counter : List Field.Source :=
  [ .document (.object [("name", .text "title"), ("type", .text "string"),
      ("required", .bool true)]),
    .document (.object [("name", .text "count"), ("type", .text "number"),
      ("defaultValue", .int 0)])]

theorem apply_fieldwise_counter :
    (∀ s ∈ counter, s.IsSound) ∧ Field.readSources counter = .ok [title, count] ∧
      ∃ v, generate [title, count] = .ok v ∧
      (∃ problems, v.apply .whole (.object [("title", .null), ("other", .null)]) =
          .error (.rejected (.invalidRecord problems)) ∧
        "title" ∈ problems.map (·.place) ∧ "count" ∉ problems.map (·.place)) ∧
      ∃ out, v.apply .whole (.object [("title", .text "a"), ("other", .null)]) = .ok out ∧
        out.get? "title" = some (.text "a") ∧ out.get? "count" = some (.int 0) := by
  have hs : ∀ s ∈ counter, s.IsSound := by simp [counter, Field.Source.IsSound]
  have hb : ∀ d, ∀ f ∈ [title, count], ¬f.IsBeyond .whole d := by
    simp [Field.IsBeyond, title, count]
  have ht : title.Takes (.text "a") (.text "a") := .string rfl ⟨nofun, nofun, nofun⟩
  have hc : count.Takes (.int 0) (.int 0) := .integer rfl ⟨nofun, nofun⟩
  have hn : ∀ d : Document, d.get? "count" = none → ¬count.Fails .whole d := by
    rintro d hd (⟨_, hq, _⟩ | ⟨_, hq⟩ | ⟨hu, _, hw⟩)
    case missing => cases hq
    case null => cases hq
    case unfit =>
      simp [Field.effective?, count, hd, Field.hasDefault, Setting.of] at hu
      exact hw _ (hu ▸ hc)
  have hr : Field.readSources counter = .ok [title, count] := rfl
  obtain ⟨hg, ha⟩ := apply_fieldwise hs hr
  obtain ⟨v, hg⟩ := hg.mpr rfl
  refine ⟨hs, hr, v, hg, ?_, ?_⟩
  case refine_1 =>
    have hx : title.Fails .whole [("title", .null), ("other", .null)] := .null rfl rfl
    obtain ⟨problems, hp, _, hm⟩ := (ha v hg .whole _ (hb _)).1 ⟨title, by simp, hx⟩
    exact ⟨problems, hp, (hm title (by simp)).mpr hx, fun h => hn _ rfl ((hm count (by simp)).mp h)⟩
  case refine_2 =>
    have hx : ¬title.Fails .whole [("title", .text "a"), ("other", .null)] := by
      rintro (⟨hu, _⟩ | ⟨hu, _⟩ | ⟨hu, _, hw⟩) <;> cases hu
      exact hw _ ht
    obtain ⟨out, ho, _, _, hw⟩ := (ha v hg .whole [("title", .text "a"), ("other", .null)] (hb _)).2
      (by simpa using ⟨hx, hn _ rfl⟩)
    exact ⟨out, ho, (hw title (by simp) _).mpr ⟨_, rfl, ht⟩,
      (hw count (by simp) _).mpr ⟨_, rfl, hc⟩⟩

theorem generate_lengthy :
    ∃ fs, Field.readSources [.document (.object [("name", .text "title"), ("type", .text "string"),
        ("maxLength", .int (Int.pow 2 64))])] = .ok fs ∧
      generate fs = .error .limitOutOfRange :=
  ⟨_, rfl, rfl⟩

end Validator

end EntityCatalog
