import EntityCatalog.Proofs.Field.Stored
import EntityCatalog.Proofs.Lookup
import EntityCatalog.Validation.Validator

namespace EntityCatalog

namespace Field

variable {f g : Field}

def fitsLengths (f : Field) : Bool :=
  let fits (n : Int) : Bool := 0 ≤ n && n < ValueRule.lengthLimit
  f.type != .known .string || f.minLength.value.all fits && f.maxLength.value.all fits

theorem fitsLengths_eq_of_same (hf : f.IsAccepted) (hg : g.IsAccepted) (h : f.same g) :
    f.fitsLengths = g.fitsLengths := by
  simp only [fitsLengths, type_eq_of_same hf.known hg.known h, minLength_eq_of_same h,
    maxLength_eq_of_same h]

@[simp] theorem fitsLengths_stored : f.stored.fitsLengths = f.fitsLengths := rfl

theorem IsAccepted.exists_textPattern (h : f.IsAccepted) : ∃ p, f.textPattern = .ok p := by
  have hc := h.checked
  unfold Field.checked at hc
  split at hc <;> try contradiction
  case h_2 =>
    cases hp : f.pattern.value
    case none => exact ⟨none, by simp [textPattern, hp]⟩
    case some p =>
      cases hr : Pattern.compile p
      case ok program => exact ⟨some ⟨p, program⟩, by simp [textPattern, hp, hr]⟩
      case error e =>
        simp only [hp, hr] at hc
        split at hc <;> contradiction

theorem textBounds_of_textPattern {p : Option TextPattern} (h : f.textPattern = .ok p) :
    f.textBounds = .ok ⟨f.minLength.value, f.maxLength.value, p⟩ := by
  simp [textBounds, h, bind, Except.bind]

theorem IsAccepted.exists_textBounds (h : f.IsAccepted) :
    ∃ b, f.textBounds = .ok b ∧ b.least = f.minLength.value ∧ b.most = f.maxLength.value := by
  have ⟨p, hp⟩ := h.exists_textPattern
  exact ⟨_, textBounds_of_textPattern hp, rfl, rfl⟩

theorem IsAccepted.exists_valueRule (h : f.IsAccepted) :
    ∃ r, f.valueRule = .ok r ∧ r.fitsLengths = f.fitsLengths := by
  have ⟨t, ht⟩ := h.known
  have ⟨b, hb, hl, hm⟩ := h.exists_textBounds
  cases t
  case string => exact ⟨.text b, by simp [valueRule, ht, hb, Functor.map, Except.map], by
    simp [ValueRule.fitsLengths, fitsLengths, ht, hl, hm]⟩
  case email => exact ⟨.email b, by simp [valueRule, ht, hb, Functor.map, Except.map], by
    simp [ValueRule.fitsLengths, fitsLengths, ht]⟩
  case url => exact ⟨.url b, by simp [valueRule, ht, hb, Functor.map, Except.map], by
    simp [ValueRule.fitsLengths, fitsLengths, ht]⟩
  case number => exact ⟨.number f.minimum.value f.maximum.value, by simp [valueRule, ht], by
    simp [ValueRule.fitsLengths, fitsLengths, ht]⟩
  case boolean => exact ⟨.truth, by simp [valueRule, ht], by
    simp [ValueRule.fitsLengths, fitsLengths, ht]⟩
  case date => exact ⟨.date, by simp [valueRule, ht], by
    simp [ValueRule.fitsLengths, fitsLengths, ht]⟩

end Field

def Field.fieldRule (f : Field) : Except Failure FieldRule := do
  let rule ← f.valueRule
  .ok { name := f.name, required := f.required.value, rule }

structure FieldRule.IsOf (f : Field) (r : FieldRule) : Prop where
  name     : r.name = f.name
  required : r.required = f.required.value
  rule     : f.valueRule = .ok r.rule

namespace Validator

variable {fs gs : List Field} {v : Validator}

theorem fields_of_generate (h : generate fs = .ok v) : v.fields = fs := by
  unfold generate at h
  simp only [bind, Except.bind] at h
  split at h <;> try contradiction
  split at h <;> cases h
  rfl

theorem foldl_addRule {rs acc : List FieldRule} (h : ((acc ++ rs).map (·.name)).Nodup) :
    rs.foldl addRule acc = acc ++ rs := by
  induction rs generalizing acc
  case nil => simp
  case cons r rs hi =>
    have hr : ∀ q ∈ acc, q.name ≠ r.name := by
      simp only [List.map_append, List.map_cons, List.nodup_append] at h
      exact fun q hq => h.2.2 q.name (List.mem_map_of_mem hq) r.name (by simp)
    have hr : acc.any (·.name == r.name) = false := by simpa using hr
    have hi := @hi (acc ++ [r]) (by simpa using h)
    simp [addRule, hr, hi]

theorem names_of_isOf {rules : List FieldRule} (h : List.Forall₂ FieldRule.IsOf fs rules) :
    rules.map (·.name) = fs.map (·.name) := by
  induction h
  case nil => rfl
  case cons hr _ hi => simp [hr.name, hi]

theorem fieldRule_eq_ok_iff {f : Field} {r : FieldRule} :
    f.fieldRule = .ok r ↔ FieldRule.IsOf f r := by
  unfold Field.fieldRule
  cases hf : f.valueRule
  case error e =>
    simp only [bind, Except.bind, reduceCtorEq, false_iff]
    exact fun h => by cases hf.symm.trans h.rule
  case ok rule =>
    simp only [bind, Except.bind, Except.ok.injEq]
    constructor
    case mp => exact fun h => h ▸ ⟨rfl, rfl, hf⟩
    case mpr =>
      intro h
      obtain ⟨name, required, _⟩ := r
      cases hf.symm.trans h.rule
      simp [← h.name, ← h.required]

theorem mapM_fieldRule_iff {rules : List FieldRule} :
    fs.mapM Field.fieldRule = .ok rules ↔ List.Forall₂ FieldRule.IsOf fs rules := by
  simp only [List.mapM_eq_ok_iff_forall₂, fieldRule_eq_ok_iff]

-- Fields of different names make a validator of their rules, if it can hold the lengths.
theorem generate_of_isOf {rules : List FieldRule} (hn : (fs.map (·.name)).Nodup)
    (ho : List.Forall₂ FieldRule.IsOf fs rules) :
    generate fs =
      if rules.all (·.rule.fitsLengths) then .ok ⟨fs, rules⟩ else .error .limitOutOfRange := by
  have hd : (rules.map (·.name)).Nodup := names_of_isOf ho ▸ hn
  change (fs.mapM Field.fieldRule >>= fun rules => _) = _
  rw [mapM_fieldRule_iff.mpr ho]
  simp only [bind, Except.bind]
  rw [foldl_addRule (by simpa using hd), List.nil_append]

theorem generate_eq_ok_iff (hn : (fs.map (·.name)).Nodup) :
    generate fs = .ok v ↔
      v.fields = fs ∧ List.Forall₂ FieldRule.IsOf fs v.rules ∧
        v.rules.all (·.rule.fitsLengths) := by
  constructor
  case mp =>
    intro h
    have ⟨rules, hr⟩ : ∃ rules, fs.mapM Field.fieldRule = .ok rules := by
      cases hr : fs.mapM Field.fieldRule
      case ok rules => exact ⟨rules, rfl⟩
      case error =>
        change (fs.mapM Field.fieldRule >>= fun rules => _) = _ at h
        rw [hr] at h
        cases h
    have ho := mapM_fieldRule_iff.mp hr
    rw [generate_of_isOf hn ho] at h
    split at h <;> cases h
    case isTrue.refl hl => exact ⟨rfl, ho, hl⟩
  case mpr =>
    intro ⟨hf, ho, hl⟩
    rw [generate_of_isOf hn ho, if_pos hl, ← hf]

theorem exists_rules (h : ∀ f ∈ fs, f.IsAccepted) :
    ∃ rules, List.Forall₂ FieldRule.IsOf fs rules ∧
      rules.all (·.rule.fitsLengths) = fs.all Field.fitsLengths := by
  induction fs
  case nil => exact ⟨[], .nil, rfl⟩
  case cons f fs hi =>
    have ⟨hf, hfs⟩ := List.forall_mem_cons.mp h
    have ⟨rules, ho, ha⟩ := hi hfs
    have ⟨rule, hr, hl⟩ := hf.exists_valueRule
    exact ⟨⟨f.name, f.required.value, rule⟩ :: rules, .cons ⟨rfl, rfl, hr⟩ ho, by simp [hl, ha]⟩

-- The validator of fields that were read. There is none only if a length is too large.
theorem exists_generate (h : Field.AreAccepted fs) :
    ∃ rules, List.Forall₂ FieldRule.IsOf fs rules ∧
      generate fs =
        if fs.all Field.fitsLengths then .ok ⟨fs, rules⟩ else .error .limitOutOfRange := by
  have ⟨rules, ho, ha⟩ := exists_rules h.accepted
  exact ⟨rules, ho, ha ▸ generate_of_isOf h.names ho⟩

theorem generate_isOk_iff (h : Field.AreAccepted fs) :
    (∃ v, generate fs = .ok v) ↔ fs.all Field.fitsLengths := by
  have ⟨rules, _, hg⟩ := exists_generate h
  rw [hg]
  split <;> simp_all

theorem generate_eq_error_iff (h : Field.AreAccepted fs) {f : Failure} :
    generate fs = .error f ↔ ¬fs.all Field.fitsLengths ∧ f = .limitOutOfRange := by
  have ⟨rules, _, hg⟩ := exists_generate h
  rw [hg]
  split
  case isTrue hl => simp [hl]
  case isFalse hl => simpa [hl] using eq_comm

theorem rules_of_generate (h : Field.AreAccepted fs) (hv : generate fs = .ok v) :
    List.Forall₂ FieldRule.IsOf fs v.rules :=
  ((generate_eq_ok_iff h.names).mp hv).2.1

theorem all_fitsLengths_eq_of_same (h : List.Forall₂ (fun f g => f.same g) fs gs)
    (hf : ∀ f ∈ fs, f.IsAccepted) (hg : ∀ g ∈ gs, g.IsAccepted) :
    fs.all Field.fitsLengths = gs.all Field.fitsLengths := by
  induction h
  case nil => rfl
  case cons hs _ hi =>
    have ⟨hf, hfs⟩ := List.forall_mem_cons.mp hf
    have ⟨hg, hgs⟩ := List.forall_mem_cons.mp hg
    rw [List.all_cons, List.all_cons, Field.fitsLengths_eq_of_same hf hg hs, hi hfs hgs]

theorem exists_generate_of_sameAll (hf : Field.AreAccepted fs) (hg : Field.AreAccepted gs)
    (h : Field.sameAll fs gs) (hv : ∃ v, generate fs = .ok v) : ∃ v, generate gs = .ok v := by
  rw [generate_isOk_iff hf] at hv
  rw [generate_isOk_iff hg,
    ← all_fitsLengths_eq_of_same (Field.same_of_sameAll h) hf.accepted hg.accepted, hv]

theorem exists_generate_stored_iff (h : Field.AreAccepted fs) :
    (∃ v, generate (fs.map Field.stored) = .ok v) ↔ ∃ v, generate fs = .ok v := by
  rw [generate_isOk_iff h, generate_isOk_iff h.stored, List.all_map]
  rfl

end Validator

end EntityCatalog
