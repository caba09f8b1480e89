import EntityCatalog.Proofs.Validation.Apply

namespace EntityCatalog

def Failure.IsRejection (f : Failure) : Prop := ∃ e, f = .rejected e

@[simp] theorem Failure.isRejection_rejected {e : CatalogError} :
    (rejected e).IsRejection :=
  ⟨e, rfl⟩

@[simp] theorem Failure.not_isRejection_overflow : ¬overflow.IsRejection := nofun

@[simp] theorem Failure.not_isRejection_limitOutOfRange : ¬limitOutOfRange.IsRejection := nofun

@[simp] theorem Failure.not_isRejection_unreadable : ¬unreadable.IsRejection := nofun

namespace Field

variable {f : Field} {fs : List Field} {failure : Failure} {n : Nat} {seen : List String}
  {s : Source} {sources : List Source}

theorem rejection_of_ofSource (h : ofSource n s = .error failure) :
    failure.IsRejection ∨ failure = .overflow := by
  cases s
  case field => cases h
  case document v =>
    cases v <;> simp only [ofSource, ofValue, Except.error.injEq] at h
    case object d =>
      unfold ofDocument at h
      dsimp only at h
      split at h
      case isTrue => cases h; exact .inl ⟨_, rfl⟩
      case isFalse =>
        split at h <;> cases h
        case h_2 => exact .inr rfl
        case h_3 => exact .inl ⟨_, rfl⟩
    all_goals exact .inl (h ▸ ⟨_, rfl⟩)

-- Fields that cannot be read are the fault of the request, or of a pattern of too many rounds.
theorem rejection_of_readFrom (h : readFrom n seen sources = .error failure) :
    failure.IsRejection ∨ failure = .overflow := by
  induction sources generalizing n seen
  case nil => cases h
  case cons s sources hi =>
    unfold readFrom at h
    cases hs : ofSource n s <;> simp only [hs, bind, Except.bind] at h
    case error => cases h; exact rejection_of_ofSource hs
    case ok f =>
      split at h
      case isTrue => cases h; exact .inl ⟨_, rfl⟩
      case isFalse =>
        cases hr : readFrom (n + 1) (f.name :: seen) sources <;> simp only [hr] at h <;> cases h
        case error.refl => exact hi hr

theorem not_isRejection_iff_of_readSources (h : readSources sources = .error failure) :
    ¬failure.IsRejection ↔ failure = .overflow := by
  constructor
  case mp => exact (rejection_of_readFrom h).resolve_left
  case mpr => rintro rfl; simp

def IsBeyondIn (f : Field) (d : Document) : Prop :=
  f.type = .known .date ∧
    ∃ v m, d.get? f.name = some v ∧ ValueRule.momentOf? v = some m ∧ m.canonical? = none

theorem IsAccepted.valueRule_eq_date_iff (h : f.IsAccepted) :
    f.valueRule = .ok .date ↔ f.type = .known .date := by
  have ⟨t, ht⟩ := h.known
  have ⟨b, hb, _⟩ := h.exists_textBounds
  cases t <;> simp [valueRule, ht, hb, Functor.map, Except.map]

end Field

theorem TextBounds.check_ne_overflow {b : TextBounds} {short long : Int → ValueFault}
    {s : String} : b.check short long s ≠ .overflow := by
  unfold check
  split <;> simp

namespace ValueRule

variable {r : ValueRule} {v : Value}

theorem checkNumber_ne_overflow {least most : Option Binary64} :
    checkNumber least most v ≠ .overflow := by
  unfold checkNumber
  dsimp only
  repeat' split
  all_goals simp

theorem checkDate_eq_overflow_iff :
    checkDate v = .overflow ↔ ∃ m, momentOf? v = some m ∧ m.canonical? = none := by
  unfold checkDate
  cases momentOf? v
  case none => simp
  case some m => cases hc : m.canonical? <;> simp [hc]

-- Dates alone overflow.
theorem check_eq_overflow_iff :
    r.check v = .overflow ↔ r = .date ∧ ∃ m, momentOf? v = some m ∧ m.canonical? = none := by
  cases r
  case date => simpa [check] using checkDate_eq_overflow_iff
  case number => simpa [check] using checkNumber_ne_overflow
  case truth => simp only [check]; split <;> simp
  case text => cases v <;> simp [check, TextBounds.check_ne_overflow]
  case email =>
    cases v <;> simp only [check, reduceCtorEq, false_and]
    case text => split <;> simp [TextBounds.check_ne_overflow]
  case url =>
    cases v <;> simp only [check, reduceCtorEq, false_and]
    case text => split <;> simp [TextBounds.check_ne_overflow]

end ValueRule

theorem FieldRule.check_eq_overflow_iff {r : FieldRule} {v : Value} :
    r.check v = .overflow ↔
      r.rule = .date ∧ ∃ m, ValueRule.momentOf? v = some m ∧ m.canonical? = none := by
  rw [← ValueRule.check_eq_overflow_iff, check]
  split
  case isFalse => rfl
  case isTrue h =>
    have hv : v = .null := by cases v <;> simp_all [Value.isNull]
    simp [hv, ValueRule.check_eq_overflow_iff, ValueRule.momentOf?]

namespace Validator

variable {v : Validator} {fs : List Field} {extent : Extent} {d : Document} {data : Value}

theorem exists_rule_iff {p : Field → Prop} {q : FieldRule → Prop} {rules : List FieldRule}
    (hr : List.Forall₂ FieldRule.IsOf fs rules) (hf : ∀ f ∈ fs, f.IsAccepted)
    (h : ∀ f r, f.IsAccepted → FieldRule.IsOf f r → (q r ↔ p f)) :
    (∃ r ∈ rules, q r) ↔ ∃ f ∈ fs, p f := by
  induction hr
  case nil => simp
  case cons ho _ hi =>
    have ⟨hf, hfs⟩ := List.forall_mem_cons.mp hf
    simp only [List.exists_mem_cons_iff, h _ _ hf ho, hi hfs]

theorem exists_verdict_overflow_iff :
    overflows (v.verdicts extent d) ↔
      ∃ r ∈ v.rules, ∃ u, (v.payload extent d).get? r.name = some u ∧ r.check u = .overflow := by
  have hr : ∀ r : FieldRule, r.verdict? extent (v.payload extent d) = some .overflow ↔
      ∃ u, (v.payload extent d).get? r.name = some u ∧ r.check u = .overflow := by
    intro r
    unfold FieldRule.verdict?
    cases (v.payload extent d).get? r.name
    case none => simp
    case some u => simp
  simp only [← hr]
  unfold overflows
  rw [List.any_eq_true]
  constructor
  case mp =>
    intro ⟨⟨n, x⟩, hx, ho⟩
    have ⟨r, hm, _, hv⟩ := mem_verdicts.mp hx
    cases x <;> simp only [Bool.false_eq_true] at ho
    case overflow => exact ⟨r, hm, hv⟩
  case mpr =>
    intro ⟨r, hm, hv⟩
    exact ⟨(r.name, .overflow), mem_verdicts.mpr ⟨r, hm, rfl, hv⟩, rfl⟩

theorem overflows_verdicts_iff (hf : Field.AreAccepted fs) (hv : generate fs = .ok v) :
    overflows (v.verdicts extent d) ↔ ∃ f ∈ fs, f.IsBeyondIn (v.payload extent d) := by
  rw [exists_verdict_overflow_iff]
  refine exists_rule_iff (rules_of_generate hf hv) hf.accepted fun f r hf hr => ?_
  have hd : r.rule = .date ↔ f.type = .known .date := by
    rw [← hf.valueRule_eq_date_iff, hr.rule, Except.ok.injEq]
  simp only [FieldRule.check_eq_overflow_iff, hd, hr.name, Field.IsBeyondIn]
  constructor
  case mp => exact fun ⟨u, hu, ht, m, hm⟩ => ⟨ht, u, m, hu, hm⟩
  case mpr => exact fun ⟨ht, u, m, hu, hm⟩ => ⟨u, hu, ht, m, hm⟩

theorem apply_overflow_iff (hf : Field.AreAccepted fs) (hv : generate fs = .ok v) :
    (∃ failure, v.apply extent data = .error failure ∧ ¬failure.IsRejection) ↔
      ∃ d, data = .object d ∧ ∃ f ∈ fs, f.IsBeyondIn (v.payload extent d) := by
  cases data
  case object d =>
    simp only [apply, Value.object.injEq, exists_eq_left', ← overflows_verdicts_iff hf hv]
    unfold applyObject
    dsimp only
    split
    case isTrue h => simpa using h
    case isFalse h => split <;> simpa using h
  all_goals simp [apply]

def payloadOf (fs : List Field) : Extent → Document → Document
  | .whole, d => withDefaults fs d
  | .changes, d => d

theorem payload_eq_payloadOf (hg : generate fs = .ok v) :
    v.payload extent = payloadOf fs extent := by
  cases extent <;> simp [payload, payloadOf, fields_of_generate hg, funext_iff]

-- Data without a verdict: there is no validator for the fields, or a date is too much for it.
def Fails (fs : List Field) (extent : Extent) (data : Value) : Prop :=
  ¬fs.all Field.fitsLengths ∨
    ∃ d, data = .object d ∧ ∃ f ∈ fs, f.IsBeyondIn (payloadOf fs extent d)

theorem not_isRejection_iff_of_generate (hf : Field.AreAccepted fs) {failure : Failure}
    (hg : generate fs = .error failure) : ¬failure.IsRejection ↔ Fails fs extent data := by
  obtain ⟨hl, rfl⟩ := (generate_eq_error_iff hf).mp hg
  exact iff_of_true (by simp) (.inl hl)

theorem fails_iff_of_generate (hf : Field.AreAccepted fs) (hg : generate fs = .ok v) :
    Fails fs extent data ↔
      ∃ failure, v.apply extent data = .error failure ∧ ¬failure.IsRejection := by
  have hl := (generate_isOk_iff hf).mp ⟨v, hg⟩
  simp [Fails, hl, apply_overflow_iff hf hg, payload_eq_payloadOf hg]

end Validator

end EntityCatalog
