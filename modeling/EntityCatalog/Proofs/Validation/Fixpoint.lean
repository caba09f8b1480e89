import EntityCatalog.Proofs.Calendar.Canonical
import EntityCatalog.Proofs.Validation.Apply
import Mathlib.Data.List.Nodup

namespace EntityCatalog

namespace Address.Email

-- An address that is its own normal form, if it is the normal form of anything.
def IsStable (cs : List Char) : Prop := ∀ s, normalize s = .ok cs → normalize cs = .ok cs

theorem at_mem_of_normalize {s cs : List Char} (h : normalize s = .ok cs) : '@' ∈ cs := by
  unfold normalize at h
  split at h <;> try contradiction
  split at h <;> try contradiction
  case isFalse.isFalse =>
    unfold normalizeAddress at h
    simp only [bind, Except.bind] at h
    repeat' split at h
    all_goals cases h
    all_goals simp

theorem isStable_of_not_mem {cs : List Char} (h : '@' ∉ cs) : IsStable cs :=
  fun _ hn => absurd (at_mem_of_normalize hn) h

end Address.Email

def Document.IsStable (d : Document) : Prop :=
  ∀ key s, (key, .text s) ∈ d → Address.Email.IsStable s.toList

def Document.hasNoAt (d : Document) : Bool :=
  d.all fun m =>
    match m.2 with
    | .text s => !s.toList.contains '@'
    | _ => true

theorem Document.isStable_of_hasNoAt {d : Document} (h : d.hasNoAt) : d.IsStable := by
  intro key s hm
  have hs := List.all_eq_true.mp h _ hm
  exact Address.Email.isStable_of_not_mem (by simpa using hs)

theorem TextBounds.eq_of_check {b : TextBounds} {short long : Int → ValueFault} {s : String}
    {w : Value} (h : b.check short long s = .taken w) : w = .text s := by
  unfold check at h
  split at h <;> cases h
  rfl

namespace ValueRule

variable {r : ValueRule} {v w : Value}

theorem eq_of_checkNumber {least most : Option Binary64}
    (h : checkNumber least most v = .taken w) : w = v := by
  unfold checkNumber at h
  dsimp only at h
  repeat' split at h
  all_goals cases h
  all_goals rfl

theorem beginsDate_text {d : Date} {rest : List Char} : beginsDate (d.text ++ rest) := by
  have ⟨_, _, _, _, _, _, _, _, ht, hd, _⟩ := Iso.exists_text d
  simpa [ht, beginsDate, Text.isAsciiDigit, and_assoc] using hd

theorem checkDate_of_checkDate (h : checkDate v = .taken w) : checkDate w = .taken w := by
  unfold checkDate at h
  split at h <;> try contradiction
  case h_2 m _ =>
    split at h <;> cases h
    case h_1.refl cs hc =>
      have ⟨d, rest, hb⟩ := Moment.text_append_of_canonical? hc
      have ⟨n, hr, hn⟩ := Moment.canonical?_read? hc
      have hb : beginsDate cs := hb ▸ beginsDate_text
      simp [checkDate, momentOf?, hb, hr, hn]

theorem check_of_check (h : r.check v = .taken w)
    (hw : ∀ s, w = .text s → Address.Email.IsStable s.toList) : r.check w = .taken w := by
  cases r
  case text b =>
    cases v <;> simp only [check, reduceCtorEq] at h
    case text s =>
      cases TextBounds.eq_of_check h
      exact h
  case number least most => exact (eq_of_checkNumber h).symm ▸ h
  case truth =>
    simp only [check] at h
    split at h <;> cases h
    case isTrue hb => simp [check, hb]
  case email b =>
    cases v <;> simp only [check, reduceCtorEq] at h
    case text s =>
      cases hn : Address.Email.normalize s.toList <;> simp only [hn, reduceCtorEq] at h
      case ok cs =>
        -- The bounds were asked of the normal form, and so hold of it when it comes back.
        cases TextBounds.eq_of_check h
        have hs := hw _ rfl
        rw [String.toList_ofList] at hs
        simp only [check, String.toList_ofList, hs _ hn, h]
  case url b =>
    cases v <;> simp only [check, reduceCtorEq] at h
    case text s =>
      split at h <;> try contradiction
      case isTrue hu =>
        cases TextBounds.eq_of_check h
        simp only [check, hu, if_true, h]
  case date => exact checkDate_of_checkDate h

end ValueRule

theorem FieldRule.check_of_check {r : FieldRule} {v w : Value} (h : r.check v = .taken w)
    (hw : ∀ s, w = .text s → Address.Email.IsStable s.toList) : r.check w = .taken w := by
  unfold check at h
  split at h
  case isTrue hn =>
    cases h
    have hr : r.required = false := by simpa using (Bool.and_eq_true_iff.mp hn).2
    simp [check, hr, Value.isNull]
  case isFalse =>
    -- Null is taken by a rule of its own, which goes before if the rule gave null.
    cases hn : w.isNull && !r.required
    case false => simpa [check, hn] using ValueRule.check_of_check h hw
    case true => cases w <;> simp_all [check, Value.isNull]

namespace Validator

-- Data of records that a validator has nothing to change in.
structure Accepts (v : Validator) (d : Document) : Prop where
  keys     : d.keys.Nodup
  declared : ∀ key ∈ d.keys, ∃ r ∈ v.rules, r.name = key
  fixed    : ∀ r ∈ v.rules, ∀ w, d.get? r.name = some w → r.check w = .taken w
  required : ∀ r ∈ v.rules, r.required → d.has r.name
  defaults : ∀ f ∈ v.fields, f.hasDefault → d.has f.name

variable {v : Validator} {d data changes out : Document} {fs : List Field} {key : String}

theorem withDefaults_cons {f : Field} :
    withDefaults (f :: fs) d =
      withDefaults fs (if f.hasDefault && !d.has f.name then d.set f.name f.defaultValue.value
        else d) :=
  rfl

theorem withDefaults_eq_self (h : ∀ f ∈ fs, f.hasDefault → d.has f.name) :
    withDefaults fs d = d := by
  induction fs
  case nil => rfl
  case cons f fs hi =>
    have ⟨hf, hfs⟩ := List.forall_mem_cons.mp h
    have hd : (f.hasDefault && !d.has f.name) = false := by
      cases hh : f.hasDefault <;> simp_all
    rw [withDefaults_cons, hd]
    exact hi hfs

theorem has_withDefaults (h : d.has key) : (withDefaults fs d).has key := by
  induction fs generalizing d
  case nil => exact h
  case cons f fs hi =>
    rw [withDefaults_cons]
    split
    case isTrue => exact hi (Document.has_set_of_has h)
    case isFalse => exact hi h

theorem has_withDefaults_of_mem {f : Field} (hm : f ∈ fs) (hd : f.hasDefault) :
    (withDefaults fs d).has f.name := by
  induction fs generalizing d
  case nil => cases hm
  case cons g fs hi =>
    rw [withDefaults_cons]
    rcases List.mem_cons.mp hm with rfl | hm
    case inr => exact hi hm
    case inl =>
      refine has_withDefaults ?_
      split
      case isTrue => exact Document.has_set_self
      case isFalse hn => simpa [hd] using hn

theorem Accepts.verdict?_eq (h : v.Accepts d) {r : FieldRule} (hr : r ∈ v.rules) :
    r.verdict? .whole d = (d.get? r.name).map .taken := by
  unfold FieldRule.verdict?
  cases hw : d.get? r.name
  case some w => simp [h.fixed r hr w hw]
  case none =>
    have hn : r.required = false := by
      refine Bool.eq_false_iff.mpr fun hq => ?_
      have ⟨w, hs⟩ := Document.has_iff_get?.mp (h.required r hr hq)
      rw [hw] at hs
      cases hs
    simp [hn]

theorem Accepts.taken?_eq (h : v.Accepts d) {r : FieldRule} (hr : r ∈ v.rules) :
    r.taken? .whole d = d.get? r.name := by
  unfold FieldRule.taken?
  rw [h.verdict?_eq hr]
  cases d.get? r.name <;> rfl

-- What is accepted is its own stored form, but for the order of its members.
theorem Accepts.applyObject (hn : (v.rules.map (·.name)).Nodup) (h : v.Accepts d) :
    ∃ out, v.applyObject .whole d = .ok out ∧ out.Perm d := by
  have hp : v.payload .whole d = d := withDefaults_eq_self h.defaults
  have ho : v.applyObject .whole d =
      .ok (v.rules.filterMap fun r => (r.taken? .whole d).map (r.name, ·)) := by
    refine applyObject_eq_ok_iff.mpr ⟨fun r hr x hx => ?_, by rw [hp]⟩
    rw [hp, h.verdict?_eq hr, Option.map_eq_some_iff] at hx
    have ⟨w, _, hw⟩ := hx
    exact ⟨w, hw.symm⟩
  refine ⟨_, ho, (List.perm_ext_iff_of_nodup ?_ ?_).mpr fun ⟨key, w⟩ => ?_⟩
  case refine_1 => exact List.Nodup.of_map _ (nodup_keys_of_applyObject hn ho)
  case refine_2 => exact List.Nodup.of_map _ h.keys
  case refine_3 =>
    rw [mem_of_applyObject ho, hp]
    constructor
    case mp =>
      rintro ⟨r, hr, rfl, hw⟩
      exact Document.mem_of_get? (h.taken?_eq hr ▸ hw)
    case mpr =>
      intro hm
      have ⟨r, hr, hk⟩ := h.declared key (List.mem_map.mpr ⟨_, hm, rfl⟩)
      subst hk
      exact ⟨r, hr, rfl, h.taken?_eq hr ▸ Document.get?_of_mem h.keys hm⟩

theorem fixed_of_applyObject {extent : Extent} (hn : (v.rules.map (·.name)).Nodup)
    (h : v.applyObject extent data = .ok out) (hs : out.IsStable) :
    ∀ r ∈ v.rules, ∀ w, out.get? r.name = some w → r.check w = .taken w := by
  intro r hr w hw
  have ⟨q, hq, hk, ht⟩ := (mem_of_applyObject h).mp (Document.mem_of_get? hw)
  cases List.inj_on_of_nodup_map hn hq hr hk
  have ⟨u, _, hc⟩ := FieldRule.taken?_eq_some_iff.mp ht
  refine FieldRule.check_of_check hc fun s he => hs r.name s ?_
  exact he ▸ Document.mem_of_get? hw

theorem has_of_applyObject {extent : Extent} (h : v.applyObject extent data = .ok out)
    {r : FieldRule} (hr : r ∈ v.rules) (hx : (r.verdict? extent (v.payload extent data)).isSome) :
    out.has r.name := by
  have ⟨x, hx⟩ := Option.isSome_iff_exists.mp hx
  have ⟨w, hw⟩ := (applyObject_eq_ok_iff.mp h).1 r hr x hx
  have hm : (r.name, w) ∈ out :=
    (mem_of_applyObject h).mpr ⟨r, hr, rfl, by simp [FieldRule.taken?, hx, hw]⟩
  exact Document.has_iff_mem_keys.mpr (List.mem_map.mpr ⟨_, hm, rfl⟩)

theorem accepts_of_applyObject (hf : Field.AreAccepted fs) (hg : generate fs = .ok v)
    (h : v.applyObject .whole data = .ok out) (hs : out.IsStable) : v.Accepts out where
  keys := nodup_keys_of_applyObject (nodup_names hf hg) h
  declared := by
    intro key hk
    obtain ⟨⟨_, w⟩, hm, he⟩ := List.mem_map.mp hk
    subst he
    obtain ⟨r, hr, hn, _⟩ := (mem_of_applyObject h).mp hm
    exact ⟨r, hr, hn⟩
  fixed := fixed_of_applyObject (nodup_names hf hg) h hs
  required := by
    -- Of a whole record there is a verdict on each required field, if only that it is missing.
    intro r hr hq
    refine has_of_applyObject h hr ?_
    unfold FieldRule.verdict?
    split <;> simp [hq]
  defaults := by
    intro f hm hd
    obtain ⟨r, hr, hk⟩ : ∃ r ∈ v.rules, r.name = f.name := by
      rw [fields_of_generate hg] at hm
      rw [← List.mem_map, names_of_isOf (rules_of_generate hf hg)]
      exact List.mem_map_of_mem hm
    obtain ⟨w, hw⟩ := Document.has_iff_get?.mp (has_withDefaults_of_mem (d := data) hm hd)
    refine hk ▸ has_of_applyObject h hr ?_
    simp [FieldRule.verdict?, payload, hk, hw]

theorem Accepts.merge (hn : (v.rules.map (·.name)).Nodup) (h : v.Accepts d)
    (ha : v.applyObject .changes data = .ok changes) (hs : changes.IsStable) :
    v.Accepts (d.merge changes) := by
  have hc := nodup_keys_of_applyObject hn ha
  constructor
  case keys => exact Document.nodup_keys_merge h.keys
  case declared =>
    intro key hk
    have ⟨w, hw⟩ := Document.has_iff_get?.mp (Document.has_iff_mem_keys.mpr hk)
    -- A member of the merge is one of the changes, or else one of the data.
    rw [Document.get?_merge hc, Option.or_eq_some_iff] at hw
    rcases hw with hw | ⟨_, hw⟩
    case inl =>
      have ⟨r, hr, hk, _⟩ := (mem_of_applyObject ha).mp (Document.mem_of_get? hw)
      exact ⟨r, hr, hk⟩
    case inr =>
      exact h.declared key (Document.has_iff_mem_keys.mp (Document.has_iff_get?.mpr ⟨w, hw⟩))
  case fixed =>
    intro r hr w hw
    rw [Document.get?_merge hc, Option.or_eq_some_iff] at hw
    rcases hw with hw | ⟨_, hw⟩
    case inl => exact fixed_of_applyObject hn ha hs r hr w hw
    case inr => exact h.fixed r hr w hw
  case required => exact fun r hr hq => Document.has_merge_of_has (h.required r hr hq)
  case defaults => exact fun f hm hd => Document.has_merge_of_has (h.defaults f hm hd)

end Validator

end EntityCatalog
