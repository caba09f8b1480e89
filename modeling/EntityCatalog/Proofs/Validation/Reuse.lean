import EntityCatalog.Proofs.Validation.Cache

namespace EntityCatalog

-- Verdicts that are told alike.
inductive Verdict.IsLike : Verdict → Verdict → Prop
  | taken (v : Value) : IsLike (taken v) (taken v)
  | refused {f g : ValueFault} : f.message = g.message → IsLike (refused f) (refused g)
  | overflow : IsLike overflow overflow

theorem Verdict.IsLike.refl : (v : Verdict) → v.IsLike v
  | .taken v => .taken v
  | .refused _ => .refused rfl
  | .overflow => .overflow

def Verdict.ofFault? (v : Value) : Option ValueFault → Verdict
  | some f => refused f
  | none => taken v

theorem Verdict.IsLike.ofFault? {v : Value} {f g : Option ValueFault}
    (h : f.map ValueFault.message = g.map ValueFault.message) :
    (Verdict.ofFault? v f).IsLike (Verdict.ofFault? v g) := by
  cases f <;> cases g <;>
    simp only [Option.map_none, Option.map_some, reduceCtorEq, Option.some.injEq] at h
  case none.none => exact .taken v
  case some.some => exact .refused h

structure FieldRule.IsLike (r s : FieldRule) : Prop where
  name     : r.name = s.name
  required : r.required = s.required
  check    : ∀ v, (r.rule.check v).IsLike (s.rule.check v)

namespace Field

def declared? (f : Field) : Option Value :=
  if f.hasDefault then some f.defaultValue.value else none

-- What a validator for records of an extent sees of a field, although equality does not.
structure IsLike (extent : Extent) (f g : Field) : Prop where
  default : extent = .whole → f.declared? = g.declared?
  minimum : f.minimum.value.map (·.text .plain) = g.minimum.value.map (·.text .plain)
  maximum : f.maximum.value.map (·.text .plain) = g.maximum.value.map (·.text .plain)

variable {f g : Field}

theorem name_eq_of_same (h : f.same g) : f.name = g.name := by
  have hn : Value.same (.text f.name) (.text g.name) := same_attribute h 0 rfl rfl
  simpa [Value.same] using hn

theorem required_eq_of_same (h : f.same g) : f.required.value = g.required.value := by
  have hr := same_attribute h 2 rfl rfl
  cases hf : f.required.value <;> cases hg : g.required.value <;>
    simp_all [Value.same, Value.position?, Position.ofInt_same_ofInt]

theorem pattern_eq_of_same (h : f.same g) : f.pattern.value = g.pattern.value :=
  Value.eq_of_same_text (same_attribute h 6 rfl rfl)

theorem minimum_position_eq_of_same (h : f.same g) :
    f.minimum.value.map (·.position) = g.minimum.value.map (·.position) :=
  Value.position_eq_of_same_real (same_attribute h 7 rfl rfl)

theorem maximum_position_eq_of_same (h : f.same g) :
    f.maximum.value.map (·.position) = g.maximum.value.map (·.position) :=
  Value.position_eq_of_same_real (same_attribute h 8 rfl rfl)

theorem textBounds_eq_of_same (h : f.same g) : f.textBounds = g.textBounds := by
  simp only [textBounds, textPattern, pattern_eq_of_same h, minLength_eq_of_same h,
    maxLength_eq_of_same h]

end Field

inductive Binary64.AreLike : Option Binary64 → Option Binary64 → Prop
  | none : AreLike none none
  | some {x y : Binary64} :
    x.position = y.position → x.text .plain = y.text .plain → AreLike (some x) (some y)

theorem Binary64.areLike_of_map {x y : Option Binary64}
    (hp : x.map (·.position) = y.map (·.position))
    (ht : x.map (·.text .plain) = y.map (·.text .plain)) : AreLike x y := by
  cases x <;> cases y <;> simp only [Option.map_none, Option.map_some, reduceCtorEq,
    Option.some.injEq] at hp ht
  case none.none => exact .none
  case some.some => exact .some hp ht

theorem Binary64.AreLike.filter {x y : Option Binary64} (h : AreLike x y)
    (p : Position → Bool) : AreLike (x.filter (p ·.position)) (y.filter (p ·.position)) := by
  cases h
  case none => exact .none
  case some x y hp ht =>
    simp only [Option.filter_some, hp]
    split
    case isTrue => exact .some hp ht
    case isFalse => exact .none

theorem ValueFault.message_tooSmall {x y : Binary64} (h : x.text .plain = y.text .plain) :
    (tooSmall x).message = (tooSmall y).message :=
  congrArg (fun s => toString "Input should be greater than or equal to " ++ toString s) h

theorem ValueFault.message_tooLarge {x y : Binary64} (h : x.text .plain = y.text .plain) :
    (tooLarge x).message = (tooLarge y).message :=
  congrArg (fun s => toString "Input should be less than or equal to " ++ toString s) h

namespace ValueRule

variable {least least' most most' : Option Binary64}

theorem message_numberFault? (hl : Binary64.AreLike least least')
    (hm : Binary64.AreLike most most') (p : Position) :
    (numberFault? least most p).map ValueFault.message =
      (numberFault? least' most' p).map ValueFault.message := by
  have hl := hl.filter p.lt
  have hm := hm.filter (·.lt p)
  unfold numberFault?
  generalize least.filter _ = x at hl ⊢
  generalize least'.filter _ = x' at hl ⊢
  generalize most.filter _ = y at hm ⊢
  generalize most'.filter _ = y' at hm ⊢
  cases hl
  case some x y _ ht => exact congrArg some (ValueFault.message_tooSmall ht)
  case none =>
    cases hm
    case some x y _ ht => exact congrArg some (ValueFault.message_tooLarge ht)
    case none => rfl

theorem isLike_checkNumber (hl : Binary64.AreLike least least')
    (hm : Binary64.AreLike most most') (v : Value) :
    (checkNumber least most v).IsLike (checkNumber least' most' v) := by
  have hb (p : Position) : (Verdict.ofFault? v (numberFault? least most p)).IsLike
      (Verdict.ofFault? v (numberFault? least' most' p)) :=
    .ofFault? (message_numberFault? hl hm p)
  cases v
  case int => exact hb _
  case real x =>
    unfold checkNumber
    dsimp only
    split
    case isTrue => exact hb _
    case isFalse => exact .refl _
  all_goals exact .refl _

end ValueRule

namespace Field

-- Equal fields that are alike in the rest have rules that are told alike.
theorem exists_valueRule_of_same {f g : Field} {extent : Extent} {r : ValueRule} (h : f.same g)
    (hl : f.IsLike extent g) (hg : ∃ t, g.type = .known t) (hr : f.valueRule = .ok r) :
    ∃ s, g.valueRule = .ok s ∧ (∀ v, (r.check v).IsLike (s.check v)) ∧
      r.fitsLengths = s.fitsLengths := by
  have hf : ∃ t, f.type = .known t := by
    cases ht : f.type
    case known t => exact ⟨t, rfl⟩
    case unknown => simp [valueRule, ht] at hr
  have ht := type_eq_of_same hf hg h
  have hb := textBounds_eq_of_same h
  obtain ⟨t, hk⟩ := hg
  by_cases hn : t = .number
  case pos =>
    subst hn
    simp only [valueRule, ht, hk, Except.ok.injEq] at hr
    subst hr
    refine ⟨.number g.minimum.value g.maximum.value, by simp [valueRule, hk], fun v => ?_, rfl⟩
    exact ValueRule.isLike_checkNumber
      (Binary64.areLike_of_map (minimum_position_eq_of_same h) hl.minimum)
      (Binary64.areLike_of_map (maximum_position_eq_of_same h) hl.maximum) v
  case neg =>
    -- The bounds of numbers are of no account here, and the rest is equal.
    refine ⟨r, ?_, fun v => .refl _, rfl⟩
    rw [← hr]
    cases t <;> simp_all [valueRule]

end Field

namespace FieldRule

variable {r s : FieldRule}

theorem IsLike.check_isLike (h : r.IsLike s) (v : Value) : (r.check v).IsLike (s.check v) := by
  unfold FieldRule.check
  rw [h.required]
  split
  case isTrue => exact .refl _
  case isFalse => exact h.check v

theorem IsLike.verdict?_isLike (h : r.IsLike s) (extent : Extent) (d : Document) :
    (r.verdict? extent d = none ∧ s.verdict? extent d = none) ∨
      ∃ v w, r.verdict? extent d = some v ∧ s.verdict? extent d = some w ∧ v.IsLike w := by
  unfold FieldRule.verdict?
  rw [h.name, h.required]
  split
  case h_1 u _ => exact .inr ⟨_, _, rfl, rfl, h.check_isLike u⟩
  case h_2 =>
    split
    case isTrue => exact .inr ⟨_, _, rfl, rfl, .refl _⟩
    case isFalse => exact .inl ⟨rfl, rfl⟩

end FieldRule

namespace Validator

variable {v w : Validator} {fs gs : List Field} {extent : Extent}

def AreLike (vs ws : List (String × Verdict)) : Prop :=
  List.Forall₂ (fun x y => x.1 = y.1 ∧ x.2.IsLike y.2) vs ws

theorem outcome_eq_of_areLike {vs ws : List (String × Verdict)} (h : AreLike vs ws) :
    overflows vs = overflows ws ∧ problemsOf vs = problemsOf ws ∧ takenOf vs = takenOf ws := by
  induction h
  case nil => exact ⟨rfl, rfl, rfl⟩
  case cons x y _ _ hx _ hi =>
    obtain ⟨n, a⟩ := x
    obtain ⟨m, b⟩ := y
    obtain ⟨rfl, hl⟩ := hx
    have ⟨ho, hp, ht⟩ := hi
    cases hl <;> simp_all [overflows, problemsOf, takenOf]

theorem areLike_verdicts (h : List.Forall₂ FieldRule.IsLike v.rules w.rules)
    (d : Document) (hp : v.payload extent d = w.payload extent d) :
    AreLike (v.verdicts extent d) (w.verdicts extent d) := by
  unfold verdicts AreLike
  rw [hp]
  dsimp only
  generalize v.rules = rs at h
  generalize w.rules = ss at h
  induction h
  case nil => exact .nil
  case cons r s _ _ hr _ hi =>
    rcases hr.verdict?_isLike extent (w.payload extent d) with ⟨hn, hm⟩ | ⟨a, b, ha, hb, hl⟩
    case inl => simpa [hn, hm] using hi
    case inr => simpa [ha, hb, hr.name, hl] using hi

theorem withDefaults_eq {d : Document}
    (h : List.Forall₂ (fun f g => f.name = g.name ∧ f.declared? = g.declared?) fs gs) :
    withDefaults fs d = withDefaults gs d := by
  unfold withDefaults
  induction h generalizing d
  case nil => rfl
  case cons f g _ _ hf _ hi =>
    have ⟨hn, hd⟩ := hf
    simp only [Field.declared?] at hd
    rw [List.foldl_cons, List.foldl_cons, hi, hn]
    cases hf : f.hasDefault <;> cases hg : g.hasDefault <;> simp_all

theorem exists_rules_of_same {rules : List FieldRule}
    (h : List.Forall₂ (fun f g => f.same g ∧ f.IsLike extent g) fs gs)
    (hg : ∀ g ∈ gs, ∃ t, g.type = .known t) (ho : List.Forall₂ FieldRule.IsOf fs rules) :
    ∃ rules', List.Forall₂ FieldRule.IsOf gs rules' ∧
      List.Forall₂ FieldRule.IsLike rules rules' ∧
      rules.all (·.rule.fitsLengths) = rules'.all (·.rule.fitsLengths) := by
  induction h generalizing rules
  case nil => cases ho; exact ⟨[], .nil, .nil, rfl⟩
  case cons f g fs gs hf _ hi =>
    cases ho with | cons hr ho =>
    have ⟨hs, hl⟩ := hf
    have ⟨hk, hks⟩ := List.forall_mem_cons.mp hg
    have ⟨rules', ho', hr', ha⟩ := hi hks ho
    have ⟨rule, hg, hc, hf⟩ := Field.exists_valueRule_of_same hs hl hk hr.rule
    refine ⟨⟨g.name, g.required.value, rule⟩ :: rules', .cons ⟨rfl, rfl, hg⟩ ho', .cons ?_ hr', ?_⟩
    case refine_1 =>
      exact {
        name     := hr.name.trans (Field.name_eq_of_same hs)
        required := hr.required.trans (Field.required_eq_of_same hs)
        check    := hc
      }
    case refine_2 => rw [List.all_cons, List.all_cons, hf, ha]

theorem names_eq_of_same (h : List.Forall₂ (fun f g => f.same g ∧ f.IsLike extent g) fs gs) :
    fs.map (·.name) = gs.map (·.name) := by
  induction h
  case nil => rfl
  case cons hf _ hi => rw [List.map_cons, List.map_cons, Field.name_eq_of_same hf.1, hi]

theorem payload_eq (h : List.Forall₂ (fun f g => f.same g ∧ f.IsLike extent g) v.fields w.fields)
    (d : Document) : v.payload extent d = w.payload extent d := by
  cases extent
  case changes => rfl
  case whole =>
    exact withDefaults_eq (h.imp fun _ _ hf => ⟨Field.name_eq_of_same hf.1, hf.2.default rfl⟩)

theorem exists_generate_of_same (hg : Field.AreAccepted gs) (hv : generate fs = .ok v)
    (h : List.Forall₂ (fun f g => f.same g ∧ f.IsLike extent g) fs gs) :
    ∃ w, generate gs = .ok w ∧ ∀ data, v.apply extent data = w.apply extent data := by
  have hn : (fs.map (·.name)).Nodup := names_eq_of_same h ▸ hg.names
  obtain ⟨hf, ho, hl⟩ := (generate_eq_ok_iff hn).mp hv
  obtain ⟨rules, ho', hr, ha⟩ := exists_rules_of_same h (fun g hm => (hg.accepted g hm).known) ho
  refine ⟨⟨gs, rules⟩, (generate_eq_ok_iff hg.names).mpr ⟨rfl, ho', ha ▸ hl⟩, fun data => ?_⟩
  unfold apply
  split
  case h_2 => rfl
  case h_1 d =>
    have hp := payload_eq (v := v) (w := ⟨gs, rules⟩) (hf ▸ h) d
    obtain ⟨ho, hq, ht⟩ := outcome_eq_of_areLike (areLike_verdicts hr d hp)
    simp only [applyObject, ho, hq, ht]

end Validator

inductive CacheCall where
  | put (key : EntityKey) (fields : List Field)
  | getOrCreate (key : EntityKey) (fields : List Field)
  | invalidate (key : EntityKey)
  | clear
  | warm (entities : List Entity)

namespace CacheCall

def kept (c : ValidatorCache) : Except Failure (Validator × ValidatorCache) → ValidatorCache
  | .ok (_, c) => c
  | .error _ => c

def run (c : ValidatorCache) : CacheCall → ValidatorCache
  | put key fields => kept c (c.put key fields)
  | getOrCreate key fields => kept c (c.getOrCreate key fields)
  | invalidate key => c.erase key
  | clear => .empty
  | warm entities => (c.warm entities).1

end CacheCall

namespace ValidatorCache

variable {c : ValidatorCache} {key : EntityKey} {fs : List Field}

def after (calls : List CacheCall) : ValidatorCache := calls.foldl CacheCall.run .empty

-- Each validator is the one of the fields that it remembers.
def IsMade (c : ValidatorCache) : Prop :=
  ∀ key v, c.get? key = some v → Validator.generate v.fields = .ok v

namespace IsMade

theorem empty : ValidatorCache.empty.IsMade := nofun

theorem put (h : c.IsMade) : (CacheCall.kept c (c.put key fs)).IsMade := by
  cases hg : Validator.generate fs
  case error => simpa [ValidatorCache.put, hg, bind, Except.bind, CacheCall.kept] using h
  case ok v =>
    intro k w hw
    simp only [ValidatorCache.put, hg, bind, Except.bind, CacheCall.kept, get?_insert] at hw
    split at hw
    case isTrue =>
      cases hw
      rwa [Validator.fields_of_generate hg]
    case isFalse => exact h k w hw

theorem getOrCreate (h : c.IsMade) : (CacheCall.kept c (c.getOrCreate key fs)).IsMade := by
  unfold ValidatorCache.getOrCreate
  split
  case h_2 => exact h.put
  case h_1 =>
    split
    case isTrue => exact h
    case isFalse => exact h.put

theorem erase (h : c.IsMade) : (c.erase key).IsMade := by
  intro k w hw
  rw [get?_erase] at hw
  split at hw
  case isTrue => cases hw
  case isFalse => exact h k w hw

theorem warm (h : c.IsMade) {es : List Entity} : (c.warm es).1.IsMade := by
  induction es generalizing c
  case nil => exact h
  case cons e es hi =>
    have hp : (CacheCall.kept c (c.put ⟨e.scope, e.name⟩ e.fields)).IsMade := h.put
    unfold ValidatorCache.warm
    split
    case h_1 => exact h
    case h_2 c' hc =>
      rw [hc] at hp
      have hw := hi hp
      split <;> simp_all [CacheCall.kept]

theorem run (h : c.IsMade) : (call : CacheCall) → (call.run c).IsMade
  | .put _ _ => h.put
  | .getOrCreate _ _ => h.getOrCreate
  | .invalidate _ => h.erase
  | .clear => empty
  | .warm _ => h.warm

theorem after (calls : List CacheCall) : (ValidatorCache.after calls).IsMade := by
  have hf (calls : List CacheCall) : ∀ {c : ValidatorCache}, c.IsMade →
      (calls.foldl CacheCall.run c).IsMade := by
    induction calls
    case nil => exact id
    case cons call calls hi => exact fun h => hi (h.run call)
  exact hf calls empty

end IsMade

-- Whatever was done to a cache before, a validator that is asked for decides and tells the same as
-- a new one, or is missing as a new one is. The fields that were kept before may be different, or
-- equal and alike in the rest.
theorem getOrCreate_apply {sources : List Field.Source} {extent : Extent}
    (calls : List CacheCall) (key : EntityKey) (hs : ∀ s ∈ sources, s.IsSound)
    (hf : Field.readSources sources = .ok fs)
    (hl : ∀ v, (after calls).get? key = some v → Field.sameAll v.fields fs →
      List.Forall₂ (Field.IsLike extent) v.fields fs) :
    ((after calls).getOrCreate key fs).map (fun r => r.1.apply extent) =
      (Validator.generate fs).map (·.apply extent) := by
  have hput : ((after calls).put key fs).map (fun r => r.1.apply extent) =
      (Validator.generate fs).map (·.apply extent) := by
    cases hg : Validator.generate fs <;> simp [put, hg, bind, Except.bind, Except.map]
  unfold getOrCreate
  split
  case h_2 => exact hput
  case h_1 v hv =>
    split
    case isFalse => exact hput
    case isTrue hk =>
      have hz : List.Forall₂ (fun f g => f.same g ∧ f.IsLike extent g) v.fields fs := by
        have ha := List.forall₂_iff_zip.mp (Field.same_of_sameAll hk)
        have hb := List.forall₂_iff_zip.mp (hl v hv hk)
        exact List.forall₂_iff_zip.mpr ⟨ha.1, fun hm => ⟨ha.2 hm, hb.2 hm⟩⟩
      obtain ⟨w, hw, he⟩ := Validator.exists_generate_of_same
        (Field.AreAccepted.of_readSources hs hf) (IsMade.after calls key v hv) hz
      simp only [Except.map, hw, Except.ok.injEq]
      exact funext he

def counted (required : Setting Bool) (default : Value) : List Field :=
  [{ name := "n", type := .known .number, required, defaultValue := .of default }]

def countedSources : List Field.Source :=
  [.document (.object [("name", .text "n"), ("type", .text "number"), ("defaultValue", .int 1)])]

theorem getOrCreate_apply_counted :
    let calls : List CacheCall := [.put ⟨"work", "note"⟩ (counted (.of false) (.int 1))]
    let fields := counted (.usual false) (.int 1)
    (∀ s ∈ countedSources, s.IsSound) ∧ Field.readSources countedSources = .ok fields ∧
      ((after calls).getOrCreate ⟨"work", "note"⟩ fields).map (fun r => r.1.apply .whole) =
        (Validator.generate fields).map (·.apply .whole) := by
  intro calls fields
  have hs : ∀ s ∈ countedSources, s.IsSound := by simp [countedSources, Field.Source.IsSound]
  refine ⟨hs, rfl, getOrCreate_apply calls ⟨"work", "note"⟩ hs rfl fun v hv _ => ?_⟩
  cases hv
  exact .cons ⟨fun _ => rfl, rfl, rfl⟩ .nil

theorem getOrCreate_apply_ne :
    let calls : List CacheCall := [.put ⟨"work", "note"⟩ (counted (.usual false) (.bool true))]
    let fields := counted (.usual false) (.int 1)
    Field.readSources countedSources = .ok fields ∧
      ((after calls).getOrCreate ⟨"work", "note"⟩ fields).map
          (fun r => r.1.apply .whole (.object [])) =
        .ok (.error (.rejected (.invalidRecord [⟨"n", "Input should be a valid number"⟩]))) ∧
      (Validator.generate fields).map (·.apply .whole (.object [])) =
        .ok (.ok [("n", .int 1)]) := by
  intro calls fields
  have hk : (after calls).get? ⟨"work", "note"⟩ =
      some ⟨counted (.usual false) (.bool true), [⟨"n", false, .number none none⟩]⟩ := rfl
  have hs : Field.sameAll (counted (.usual false) (.bool true)) fields := by decide +kernel
  refine ⟨rfl, ?_, rfl⟩
  simp only [getOrCreate, hk, hs, if_true]
  rfl

end ValidatorCache

end EntityCatalog
