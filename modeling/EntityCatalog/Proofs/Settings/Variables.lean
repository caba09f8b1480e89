import EntityCatalog.Proofs.Settings.Layers
import EntityCatalog.Proofs.Settings.Spelling
import EntityCatalog.Proofs.Text.Lower
import EntityCatalog.Proofs.Text.Split

namespace EntityCatalog

namespace Environment

variable {env vars : List (String × String)} {name value key area : String}

def value? (env : Environment) (name : String) : Option String := spelled? env name

def put (out : List (String × String)) (v : String × String) : List (String × String) :=
  if out.any (·.1 == v.1.lowered) then
    out.map fun w => if w.1 == v.1.lowered then (v.1.lowered, v.2) else w
  else out ++ [(v.1.lowered, v.2)]

theorem folded_eq : folded env = env.foldl put [] := rfl

theorem lookup_foldl_put {out : List (String × String)} :
    (env.foldl put out).lookup name = (value? env name).or (out.lookup name) := by
  induction env generalizing out
  case nil => rfl
  case cons v env hi =>
    have hp : (put out v).lookup name =
        if name = v.1.lowered then some v.2 else out.lookup name := by
      rw [put, List.lookup_set]
      simp
    rw [List.foldl_cons, hi, value?, value?, spelled?_cons, hp]
    by_cases hv : name = v.1.lowered
    case pos => cases value? env name <;> simp [hv]
    case neg => cases value? env name <;> simp [hv, Ne.symm hv]

theorem lookup_folded : (folded env).lookup name = value? env name := by
  rw [folded_eq, lookup_foldl_put]
  simp

theorem map_fst_put {out : List (String × String)} {v : String × String} :
    (put out v).map (·.1) =
      if v.1.lowered ∈ out.map (·.1) then out.map (·.1) else out.map (·.1) ++ [v.1.lowered] := by
  have ha : out.any (·.1 == v.1.lowered) ↔ v.1.lowered ∈ out.map (·.1) := by simp
  unfold put
  by_cases hv : v.1.lowered ∈ out.map (·.1)
  case neg => rw [if_neg (mt ha.mp hv), if_neg hv, List.map_append]; rfl
  case pos =>
    rw [if_pos (ha.mpr hv), if_pos hv, List.map_map]
    refine List.map_congr_left fun w _ => ?_
    by_cases hw : w.1 = v.1.lowered <;> simp [hw]

structure AreFolded (vars : List (String × String)) : Prop where
  nodup : (vars.map (·.1)).Nodup
  lower : ∀ v ∈ vars, ∀ c ∈ v.1.toList, ¬c.isUpper

theorem AreFolded.put {v : String × String} (h : AreFolded vars) : AreFolded (put vars v) where
  nodup := by
    rw [map_fst_put]
    split
    case isTrue => exact h.nodup
    case isFalse hv =>
      exact List.nodup_append.mpr ⟨h.nodup, by simp, by rintro _ hm _ hs rfl; simp_all⟩
  lower := by
    have hl : ∀ n ∈ (Environment.put vars v).map (·.1), ∀ c ∈ n.toList, ¬c.isUpper := by
      intro n hn
      rw [map_fst_put] at hn
      have hn : n ∈ vars.map (·.1) ∨ n = v.1.lowered := by
        split at hn <;> simp_all
      rcases hn with hn | rfl
      case inl =>
        have ⟨w, hw, he⟩ := List.mem_map.mp hn
        exact he ▸ h.lower w hw
      case inr =>
        intro c hc
        rw [String.lowered, String.toList_ofList] at hc
        exact Text.not_isUpper_of_mem_lowerAux hc
    exact fun w hw => hl w.1 (List.mem_map_of_mem hw)

theorem areFolded_folded : AreFolded (folded env) := by
  have h {out : List (String × String)} (ho : AreFolded out) : AreFolded (env.foldl put out) := by
    induction env generalizing out
    case nil => exact ho
    case cons v env hi => exact hi ho.put
  exact h ⟨.nil, nofun⟩

theorem nameParts_ne_nil {cs : List Char} : nameParts cs ≠ [] := by
  fun_induction nameParts cs <;> simp

theorem eq_of_nameParts {cs w : List Char} (h : nameParts cs = [w]) : w = cs := by
  fun_induction nameParts cs generalizing w
  case case1 cs hi => exact absurd (List.cons.inj h).2 nameParts_ne_nil
  case case2 c cs _ w' ws hws hi =>
    obtain ⟨rfl, rfl⟩ := List.cons.inj h
    rw [hi hws]
  case case3 hn _ => exact absurd hn nameParts_ne_nil
  case case4 => exact (List.cons.inj h).1.symm

theorem mem_of_mem_nameParts {cs w : List Char} (h : w ∈ nameParts cs) : ∀ c ∈ w, c ∈ cs := by
  fun_induction nameParts cs generalizing w
  case case1 cs hi =>
    rcases List.mem_cons.mp h with rfl | h
    case inl => exact nofun
    case inr => exact fun c hc => List.mem_cons_of_mem _ (List.mem_cons_of_mem _ (hi h c hc))
  case case2 c cs _ w' ws hws hi =>
    rcases List.mem_cons.mp h with rfl | h
    case inl =>
      intro x hx
      rcases List.mem_cons.mp hx with rfl | hx
      case inl => simp
      case inr => exact List.mem_cons_of_mem _ (hi (hws ▸ List.mem_cons_self) x hx)
    case inr => exact fun x hx => List.mem_cons_of_mem _ (hi (hws ▸ List.mem_cons_of_mem _ h) x hx)
  case case3 hn _ => exact absurd hn nameParts_ne_nil
  case case4 => simp [List.mem_singleton.mp h]

-- What a variable of another name may do to a member: it goes inside of it, where no text is.
def Deepens (before after : Option Value) : Prop :=
  after = before ∨ (∃ ms, after = some (.object ms)) ∧ ∀ t, before ≠ some (.text t)

theorem Deepens.trans {a b c : Option Value} (h : Deepens a b) (h' : Deepens b c) :
    Deepens a c := by
  rcases h with rfl | ⟨⟨ms, rfl⟩, ht⟩
  case inl => exact h'
  case inr =>
    rcases h' with rfl | ⟨ho, _⟩
    case inl => exact .inr ⟨⟨ms, rfl⟩, ht⟩
    case inr => exact .inr ⟨ho, ht⟩

theorem Deepens.eq_of_text {t : String} {o : Option Value} (h : Deepens (some (.text t)) o) :
    o = some (.text t) :=
  h.elim id fun ⟨_, ht⟩ => absurd rfl (ht t)

variable {names : List String} {v : Value} {d : Document}

-- What is set under the first of several names: the value itself if there are no more names, or
-- else an object, which does not take the place of a text.
inductive Sets (before : Option Value) (v : Value) {α : Type} : List α → Value → Prop
  | here : Sets before v [] v
  | inside {a : α} {as : List α} {ms : List (String × Value)} (h : ∀ t, before ≠ some (.text t)) :
    Sets before v (a :: as) (.object ms)

theorem setAt_eq_or : setAt (name :: names) v d = d ∨
    ∃ x, setAt (name :: names) v d = d.set name x ∧ Sets (d.get? name) v names x := by
  cases names
  case nil => exact .inr ⟨v, rfl, .here⟩
  case cons n names =>
    rw [setAt.eq_3 _ _ _ _ (by simp)]
    cases hd : d.get? name
    case none => exact .inr ⟨_, rfl, .inside (by simp)⟩
    case some w =>
      cases w
      case object ms => exact .inr ⟨_, rfl, .inside (by simp)⟩
      all_goals exact .inl rfl

def addMember (area : String) (d : Document) (w : String × String) : Document :=
  match Text.after? s!"entityctl_{area}__".toList w.1.toList with
  | some rest => setAt ((nameParts rest).map String.ofList) (.text w.2) d
  | none => d

variable {w : String × String}

structure Adds (area : String) (d : Document) (w : String × String) (part : List Char) (x : Value)
    (rest : List Char) (parts : List (List Char)) : Prop where
  name : w.1.toList = s!"entityctl_{area}__".toList ++ rest
  cut  : nameParts rest = part :: parts
  eq   : addMember area d w = d.set (String.ofList part) x
  sets : Sets (d.get? (String.ofList part)) (.text w.2) parts x

theorem addMember_eq_or (area : String) (d : Document) (w : String × String) :
    addMember area d w = d ∨ ∃ part x rest parts, Adds area d w part x rest parts := by
  cases hr : Text.after? s!"entityctl_{area}__".toList w.1.toList
  case none => exact .inl (by rw [addMember, hr])
  case some rest =>
    have hw := Text.eq_append_of_after? hr
    cases hp : nameParts rest
    case nil => exact absurd hp nameParts_ne_nil
    case cons part parts =>
      have ha : addMember area d w =
          setAt (String.ofList part :: parts.map String.ofList) (.text w.2) d := by
        simp only [addMember, hr, hp, List.map_cons]
      rcases setAt_eq_or (d := d) with he | ⟨x, he, hx⟩
      case inl => exact .inl (ha.trans he)
      case inr =>
        refine .inr ⟨part, x, rest, parts, hw, hp, ha.trans he, ?_⟩
        cases parts <;> cases hx
        case nil.here => exact .here
        case cons.inside ht => exact .inside ht

theorem nodup_keys_membersOf : (membersOf vars area).keys.Nodup := by
  have hnil : (Document.keys []).Nodup := List.nodup_nil
  refine List.foldlRecOn vars (addMember area) (motive := fun d => d.keys.Nodup) hnil ?_
  intro d hd w _
  rcases addMember_eq_or area d w with he | ⟨_, _, _, _, ha⟩
  case inl => rwa [he]
  case inr => rw [ha.eq]; exact Document.nodup_keys_set hd

theorem not_isUpper_of_mem_keys (h : AreFolded vars) :
    ∀ n ∈ (membersOf vars area).keys, ∀ c ∈ n.toList, ¬c.isUpper := by
  have hnil : ∀ n ∈ Document.keys [], ∀ c ∈ n.toList, ¬c.isUpper := fun _ hn => nomatch hn
  refine List.foldlRecOn vars (addMember area)
    (motive := fun d => ∀ n ∈ d.keys, ∀ c ∈ n.toList, ¬c.isUpper) hnil ?_
  intro d hd w hw
  rcases addMember_eq_or area d w with he | ⟨part, _, rest, _, ha⟩
  case inl => rwa [he]
  case inr =>
    intro n hn c hc
    rw [ha.eq, Document.mem_keys_set] at hn
    rcases hn with rfl | hn
    case inr => exact hd n hn c hc
    case inl =>
      rw [String.toList_ofList] at hc
      have hm : c ∈ rest := mem_of_mem_nameParts (ha.cut ▸ List.mem_cons_self) c hc
      exact h.lower w hw c (by rw [ha.name]; exact List.mem_append_right _ hm)

def memberName (area key : String) : String := s!"entityctl_{area}__{key}"

theorem toList_memberName :
    (memberName area key).toList = s!"entityctl_{area}__".toList ++ key.toList := by
  simp [memberName, String.toList_append, toString]

theorem get?_addMember_self (hk : nameParts key.toList = [key.toList])
    (h : w.1 = memberName area key) :
    (addMember area d w).get? key = some (.text w.2) := by
  rw [addMember, h, toList_memberName, Text.after?_append]
  simp only [hk, List.map_cons, List.map_nil, String.ofList_toList]
  rw [setAt, Document.get?_set, if_pos rfl]

theorem deepens_addMember (h : w.1 ≠ memberName area key) :
    Deepens (d.get? key) ((addMember area d w).get? key) := by
  rcases addMember_eq_or area d w with he | ⟨part, x, rest, parts, ha⟩
  case inl => rw [he]; exact .inl rfl
  case inr =>
    rw [ha.eq, Document.get?_set]
    by_cases hn : key = String.ofList part
    case neg => rw [if_neg hn]; exact .inl rfl
    case pos =>
      rw [if_pos hn]
      have hs := ha.sets
      cases hp : parts <;> rw [hp] at hs <;> cases hs
      case cons.inside ht => exact .inr ⟨⟨_, rfl⟩, hn ▸ ht⟩
      case nil.here =>
        -- Then the whole rest of the name is the name of the member.
        have hcut : nameParts rest = [part] := by rw [ha.cut, hp]
        have hrest : key.toList = rest := by
          rw [hn, String.toList_ofList, eq_of_nameParts hcut]
        exact absurd (String.toList_inj.mp (by rw [toList_memberName, ha.name, hrest])) h

theorem deepens_foldl (h : memberName area key ∉ vars.map (·.1)) :
    Deepens (d.get? key) ((vars.foldl (addMember area) d).get? key) := by
  induction vars generalizing d
  case nil => exact .inl rfl
  case cons w vars hi =>
    have ⟨hw, hv⟩ := not_or.mp (List.mem_cons.not.mp h)
    exact (deepens_addMember (Ne.symm hw)).trans (hi hv)

theorem get?_foldl (area : String) (d : Document) (hk : nameParts key.toList = [key.toList])
    (hn : (vars.map (·.1)).Nodup) :
    (∃ t, vars.lookup (memberName area key) = some t ∧
      (vars.foldl (addMember area) d).get? key = some (.text t)) ∨
    vars.lookup (memberName area key) = none ∧
      Deepens (d.get? key) ((vars.foldl (addMember area) d).get? key) := by
  induction vars generalizing d
  case nil => exact .inr ⟨rfl, .inl rfl⟩
  case cons w vars hi =>
    obtain ⟨name, value⟩ := w
    have ⟨hw, hn⟩ := List.nodup_cons.mp hn
    by_cases h : name = memberName area key
    case pos =>
      -- No other variable has the name, so that the text stays.
      have ht := get?_addMember_self (d := d) (w := (name, value)) hk h
      have hd := deepens_foldl (h ▸ hw) (d := addMember area d (name, value))
      rw [ht] at hd
      exact .inl ⟨value, by simp [h], hd.eq_of_text⟩
    case neg =>
      have hl : List.lookup (memberName area key) ((name, value) :: vars) =
          vars.lookup (memberName area key) := by
        have hb : (memberName area key == name) = false := by simpa using Ne.symm h
        simp [List.lookup_cons, hb]
      have hd := deepens_addMember (d := d) (w := (name, value)) h
      rw [hl, List.foldl_cons]
      exact (hi _ hn).imp_right fun ⟨hv, hr⟩ => ⟨hv, hd.trans hr⟩

-- A member is the text of its variable, if there is one. Otherwise it can only be an object.
theorem get?_membersOf (area : String) (hk : nameParts key.toList = [key.toList])
    (h : AreFolded vars) :
    (membersOf vars area).get? key =
        (vars.lookup (memberName area key)).map Value.text ∨
      vars.lookup (memberName area key) = none ∧
        ∃ ms, (membersOf vars area).get? key = some (.object ms) := by
  rcases get?_foldl area [] hk h.nodup with ⟨t, ht, hd⟩ | ⟨hn, hd⟩
  case inl => exact .inl (by rw [ht]; exact hd)
  case inr =>
    rcases hd with hd | ⟨ho, _⟩
    case inl => exact .inl (by rw [hn]; exact hd)
    case inr => exact .inr ⟨hn, ho⟩

theorem get?_withDeclaredNames {declared : List String} (hl : ∀ n ∈ declared, n.lowered = n)
    (hk : key ∈ declared) : (withDeclaredNames declared d).get? key = spelled? d key := by
  have hd (n : String) :
      key = (declared.find? (·.lowered = n.lowered)).getD n ↔ n.lowered = key := by
    cases hf : declared.find? (·.lowered = n.lowered)
    case none =>
      have hn : key.lowered ≠ n.lowered := by
        simpa using List.find?_eq_none.mp hf key hk
      rw [hl key hk] at hn
      constructor
      case mp => rintro rfl; exact absurd (hl _ hk).symm hn
      case mpr => exact fun h => absurd h.symm hn
    case some k =>
      have hm := hl k (List.mem_of_find?_eq_some hf)
      have he : k.lowered = n.lowered := by simpa using List.find?_some hf
      rw [Option.getD_some, ← he, hm]
      exact eq_comm
  have hg {out : Document} : Document.get? (d.foldl (fun out m =>
      Document.set out ((declared.find? (·.lowered = m.1.lowered)).getD m.1) m.2) out) key =
      (spelled? d key).or (out.get? key) := by
    induction d generalizing out
    case nil => rfl
    case cons m d hi =>
      rw [List.foldl_cons, hi, Document.get?_set, spelled?_cons]
      simp only [hd m.1]
      by_cases hm : m.1.lowered = key <;> cases spelled? d key <;> simp [hm]
  exact hg.trans (by simp [Document.get?])

structure IsDeclared (declared : List String) (key : String) : Prop where
  mem   : key ∈ declared
  lower : ∀ n ∈ declared, n.lowered = n
  part  : nameParts key.toList = [key.toList]
  ascii : key.toList.all fun c => Text.isAscii c && c != 'k'

namespace IsDeclared

variable {declared : List String} (h : IsDeclared declared key)

include h

theorem lowered_eq_iff (area : String) (hf : AreFolded vars) :
    ∀ n ∈ (membersOf vars area).keys, n.lowered = key ↔ n = key := by
  intro n hn
  constructor
  case mpr => rintro rfl; exact h.lower _ h.mem
  case mp =>
    intro he
    have ht : Text.lower n.toList = key.toList := by
      rw [← he, String.lowered, String.toList_ofList]
    have ha : ∀ x ∈ Text.lower n.toList, Text.isAscii x ∧ x ≠ 'k' := by
      simpa [ht] using h.ascii
    have hc : Text.lower n.toList = n.toList :=
      Text.eq_of_lowerAux (not_isUpper_of_mem_keys hf n hn) ha
    exact String.toList_inj.mp (hc.symm.trans ht)

theorem spelled?_membersOf (area : String) (hf : AreFolded vars) :
    let own := (vars.lookup (memberName area key)).map Value.text
    spelled? (membersOf vars area) key = own ∨
      own = none ∧ ∃ ms, spelled? (membersOf vars area) key = some (.object ms) := by
  rw [Document.spelled?_eq_get? nodup_keys_membersOf (h.lowered_eq_iff area hf)]
  exact (get?_membersOf area h.part hf).imp_right fun ⟨hn, ho⟩ => ⟨by rw [hn]; rfl, ho⟩

theorem spelled?_membersOf_over (area : String) (hf : AreFolded vars) (d : Document) :
    let own := (vars.lookup (memberName area key)).map Value.text
    spelled? (Document.over (membersOf vars area) d) key =
        spelled? (own.elim d (d.set key)) key ∨
      ∃ ms, spelled? (Document.over (membersOf vars area) d) key = some (.object ms) := by
  have hn : (membersOf vars area).keys.Nodup := nodup_keys_membersOf
  have hs := h.lowered_eq_iff area hf
  have hk := h.lower _ h.mem
  rcases get?_membersOf area h.part hf with hm | ⟨hv, ms, hm⟩
  case inl =>
    cases hv : vars.lookup (memberName area key)
    case none => exact .inl (Document.spelled?_over_of_none hn hs (by rw [hm, hv]; rfl))
    case some t =>
      rw [hv] at hm
      exact .inl (Document.spelled?_over_of_some hn hs hk hm Value.merged_text)
  case inr =>
    have ⟨bs, hb⟩ := Value.exists_merged_object (d.get? key) ms
    rw [Document.spelled?_over_of_some hn hs hk hm hb, hv]
    exact Document.spelled?_set_or.symm.imp_right fun ho => ⟨bs, ho⟩

end IsDeclared

-- What the environment gives for a member of a section: the text of its variable, which is set in
-- the JSON object of the section's variable, if there is one.
def member? (env : Environment) (area key : String) : Option Value :=
  let own := (value? env (memberName area key)).map Value.text
  match value? env ("entityctl_" ++ area) with
  | none => own
  | some text =>
    match Json.read text with
    | .ok (.object d) => spelled? (own.elim d (Document.set d key)) key
    | _ => none

theorem nodup_keys_withDeclaredNames {declared : List String} :
    (withDeclaredNames declared d).keys.Nodup := by
  have hnil : (Document.keys []).Nodup := List.nodup_nil
  exact List.foldlRecOn d _ (motive := fun d => (Document.keys d).Nodup) hnil
    fun out ho m _ => Document.nodup_keys_set ho

theorem section?_eq {declared : List String} {o : Option Value} (hk : IsDeclared declared key)
    (h : section? (folded env) area declared = .ok o) (ho : ∀ v, o = some v → ∃ m, v = .object m) :
    (∀ v, o = some v → ∃ m : Document, v = .object m ∧ m.keys.Nodup) ∧
      (o.bind (·.at? [key]) = member? env area key ∨
        ∃ ms, o.bind (·.at? [key]) = some (.object ms)) := by
  have hf : AreFolded (folded env) := areFolded_folded
  have hd (d : Document) : (Value.object (withDeclaredNames declared d)).at? [key] =
      spelled? d key :=
    (Document.at?_name _).trans (get?_withDeclaredNames hk.lower hk.mem)
  have hs : ∀ d v, some (Value.object (withDeclaredNames declared d)) = some v →
      ∃ m : Document, v = .object m ∧ m.keys.Nodup := by
    rintro d v ⟨⟩
    exact ⟨_, rfl, nodup_keys_withDeclaredNames⟩
  unfold section? at h
  unfold member?
  simp only [lookup_folded] at h
  cases hv : value? env ("entityctl_" ++ area)
  case none =>
    simp only [hv, Except.ok.injEq] at h ⊢
    have hm := hk.spelled?_membersOf area hf
    simp only [lookup_folded] at hm
    split at h <;> subst h
    case isTrue he =>
      rw [List.isEmpty_iff.mp he] at hm
      refine ⟨nofun, .inl ?_⟩
      rcases hm with hm | ⟨_, ms, hm⟩
      case inl => exact hm
      case inr => cases hm
    case isFalse =>
      refine ⟨hs _, ?_⟩
      rw [Option.bind_some, hd]
      exact hm.imp_right And.right
  case some text =>
    simp only [hv] at h ⊢
    have hm := hk.spelled?_membersOf_over area hf
    simp only [lookup_folded] at hm
    split at h <;> cases h
    case h_2.refl hr => exact ⟨nofun, .inl (by rw [hr]; rfl)⟩
    case h_3.refl d hr =>
      refine ⟨hs _, ?_⟩
      rw [Option.bind_some, hd, hr]
      exact hm d
    case h_4.refl v _ hno _ =>
      have ⟨m, hm⟩ := ho v rfl
      exact absurd hm (hno m)

end Environment

end EntityCatalog
