import EntityCatalog.Field.Reader
import EntityCatalog.Proofs.Value.Same
import EntityCatalog.Store.Tables
import Mathlib.Data.List.Forall2

namespace EntityCatalog

namespace Setting

variable {α : Type}

def IsNormal (usual : α) (s : Setting α) : Prop := s.given = false → s.value = usual

theorem setting_isNormal {usual : α} {a : Field.Attribute α} :
    (Field.setting usual a).IsNormal usual := by
  unfold Field.setting
  split <;> simp [IsNormal, Setting.of, Setting.usual]

theorem IsNormal.eq_setting {usual : α} {s : Setting α} (h : s.IsNormal usual) :
    Field.setting usual (.ok (if s.given then some s.value else none)) = s := by
  obtain ⟨value, given⟩ := s
  cases given
  case false => simp [Field.setting, Setting.usual, ← h rfl]
  case true => simp [Field.setting, Setting.of]

end Setting

namespace Field

variable {f g : Field} {fs gs : List Field} {name spaced : String} {α : Type}

-- What reading a field makes sure of.
structure IsAccepted (f : Field) : Prop where
  known      : ∃ t, f.type = .known t
  required   : f.required.IsNormal false
  unique     : f.unique.IsNormal none
  minLength  : f.minLength.IsNormal none
  maxLength  : f.maxLength.IsNormal none
  pattern    : f.pattern.IsNormal none
  minimum    : f.minimum.IsNormal none
  maximum    : f.maximum.IsNormal none
  default    : f.defaultValue.IsNormal .null
  inTable    : f.inTable.IsNormal true
  searchable : f.searchable.IsNormal true
  checked    : f.checked = .ok f

def stored (f : Field) : Field :=
  { f with defaultValue := { f.defaultValue with value := f.defaultValue.value.plain } }

@[simp] theorem toDocument_stored : f.stored.toDocument = f.toDocument := by
  simp only [toDocument, attributes, stored, List.filterMap_cons, Value.plain_plain]

theorem eq_of_checked (h : f.checked = .ok g) : g = f := by
  unfold checked at h
  repeat' split at h
  all_goals first | contradiction | exact (Except.ok.inj h).symm

theorem checked_stored : f.stored.checked = f.checked.map stored := by
  unfold checked
  rw [show shapeFlaw? f.stored = shapeFlaw? f from rfl]
  repeat' split
  all_goals simp_all [Except.map, stored]

theorem IsAccepted.stored (h : f.IsAccepted) : f.stored.IsAccepted where
  known      := h.known
  required   := h.required
  unique     := h.unique
  minLength  := h.minLength
  maxLength  := h.maxLength
  pattern    := h.pattern
  minimum    := h.minimum
  maximum    := h.maximum
  default    := fun hg => by simp [Field.stored, h.default hg, Value.plain, Value.withTexts]
  inTable    := h.inTable
  searchable := h.searchable
  checked    := by simp [checked_stored, h.checked, Except.map]

theorem IsAccepted.of_ofDocument {n : Nat} {d : Document} (h : ofDocument n d = .ok f) :
    f.IsAccepted := by
  unfold ofDocument at h
  dsimp only at h
  split at h
  case isTrue => cases h
  case isFalse =>
    split at h <;> cases h
    case h_1.refl hc =>
      have hf := eq_of_checked hc
      subst hf
      exact {
        known      := ⟨_, rfl⟩
        required   := Setting.setting_isNormal
        unique     := Setting.setting_isNormal
        minLength  := Setting.setting_isNormal
        maxLength  := Setting.setting_isNormal
        pattern    := Setting.setting_isNormal
        minimum    := Setting.setting_isNormal
        maximum    := Setting.setting_isNormal
        default    := Setting.setting_isNormal
        inTable    := Setting.setting_isNormal
        searchable := Setting.setting_isNormal
        checked    := hc
      }

theorem same_attribute (h : f.same g) (i : Nat) {v w : Value} {b c : Bool}
    (hv : f.attributes[i]? = some (name, v, b)) (hw : g.attributes[i]? = some (name, w, c)) :
    v.same w := by
  have hm : ((name, v, b), (name, w, c)) ∈ f.attributes.zip g.attributes :=
    List.mem_of_getElem? (List.getElem?_zip_eq_some.mpr ⟨hv, hw⟩)
  exact List.all_eq_true.mp (Bool.and_eq_true_iff.mp h).2 _ hm

theorem type_eq_of_same (hf : ∃ t, f.type = .known t) (hg : ∃ t, g.type = .known t)
    (h : f.same g) : f.type = g.type := by
  have ⟨t, ht⟩ := hf
  have ⟨u, hu⟩ := hg
  have he : Value.same (.text f.type.text) (.text g.type.text) := same_attribute h 1 rfl rfl
  simp only [Value.same, beq_iff_eq, ht, hu, DeclaredType.text] at he
  have hr := FieldType.ofToken?_token t
  rw [he, FieldType.ofToken?_token] at hr
  rw [ht, hu, Option.some.inj hr]

theorem minLength_eq_of_same (h : f.same g) : f.minLength.value = g.minLength.value :=
  Value.eq_of_same_int (same_attribute h 4 rfl rfl)

theorem maxLength_eq_of_same (h : f.same g) : f.maxLength.value = g.maxLength.value :=
  Value.eq_of_same_int (same_attribute h 5 rfl rfl)

-- Only a field whose default is plain equals the one that comes back.
theorem stored_eq_of_same (h : f.same f.stored) : f.stored = f := by
  have he : f.defaultValue.value.same f.defaultValue.value.plain := same_attribute h 9 rfl rfl
  simp only [stored, Value.plain_eq_of_same_plain he]

theorem same_of_sameAll (h : sameAll fs gs) : List.Forall₂ (fun f g => f.same g) fs gs := by
  simp only [sameAll, Bool.and_eq_true, beq_iff_eq] at h
  rw [List.forall₂_iff_zip]
  exact ⟨h.1, fun hm => List.all_eq_true.mp h.2 _ hm⟩

theorem stored_eq_of_sameAll (h : sameAll fs (fs.map stored)) : fs.map stored = fs := by
  have h := List.forall₂_map_right_iff.mp (same_of_sameAll h)
  rw [List.forall₂_same] at h
  rw [List.map_congr_left fun f hf => stored_eq_of_same (h f hf), List.map_id']

theorem get?_written {as : List (String × Value × Bool)} (h : (as.map (·.1)).Nodup) :
    Document.get? (as.filterMap fun (n, v, given) => if given then some (n, v.plain) else none) name
      = (as.lookup name).bind fun (v, given) => if given then some v.plain else none := by
  induction as
  case nil => rfl
  case cons a as hi =>
    obtain ⟨n, v, given⟩ := a
    simp only [List.map_cons, List.nodup_cons] at h
    have hi := hi h.2
    simp only [Document.get?] at hi ⊢
    by_cases hn : name = n
    case pos =>
      subst hn
      have hl : as.lookup name = none := by
        simp only [List.lookup_eq_none_iff, bne_iff_ne]
        rintro m hm rfl
        exact h.1 (List.mem_map_of_mem hm)
      cases given <;> simp [hi, hl]
    case neg =>
      have hn : (name == n) = false := by simpa using hn
      cases given <;> simp [List.lookup_cons, hn, hi]

theorem get?_toDocument :
    f.toDocument.get? name =
      (f.attributes.lookup name).bind fun (v, given) => if given then some v.plain else none :=
  get?_written (show (f.attributes.map (·.1)).Nodup from by
    simp only [attributes, List.map_cons, List.map_nil]; decide)

theorem optional_toDocument {read : Reads α} {v : Value} {given : Bool} {a : α}
    (hn : f.attributes.lookup name = some (v, given))
    (hs : spaced = name ∨ f.attributes.lookup spaced = none) (hr : read v.plain = .ok a) :
    optional f.toDocument name spaced read = .ok (if given then some a else none) := by
  have hs : f.toDocument.get? spaced = f.toDocument.get? name ∨ f.toDocument.get? spaced = none :=
    hs.imp (fun h => by rw [h]) fun h => by simp [get?_toDocument, h]
  unfold optional
  rw [show (f.toDocument.get? name).or (f.toDocument.get? spaced) = f.toDocument.get? name by
    rcases hs with h | h <;> simp [h]]
  cases given <;> simp [get?_toDocument, hn, hr]

theorem mandatory_toDocument {read : Reads α} {v : Value} {a : α}
    (hn : f.attributes.lookup name = some (v, true)) (hr : read v.plain = .ok a) :
    mandatory f.toDocument name read = .ok (some a) := by
  simp [mandatory, optional_toDocument hn (.inl rfl) hr]

theorem orNull_plain {read : Reads α} {wrap : α → Value} (o : Option α)
    (hr : ∀ a, read (wrap a).plain = .ok a) (hn : ∀ a, (wrap a).plain ≠ .null) :
    Reads.orNull read (Value.plain (match o with
      | some a => wrap a
      | none => .null)) = .ok o := by
  cases o
  case none => rfl
  case some a =>
    unfold Reads.orNull
    split
    case h_1 h => exact absurd h (hn a)
    case h_2 => simp [hr a, Functor.map, Except.map]

theorem IsAccepted.ofDocument_toDocument (hf : f.IsAccepted) (n : Nat) :
    ofDocument n f.toDocument = .ok f.stored := by
  have ⟨t, ht⟩ := hf.known
  have hname : mandatory f.toDocument "name" Reads.text = .ok (some f.name) :=
    mandatory_toDocument rfl rfl
  have htype : mandatory f.toDocument "type" readType = .ok (some t) :=
    mandatory_toDocument rfl <| by
      simp [ht, DeclaredType.text, readType, Value.plain, Value.withTexts, FieldType.ofToken?_token]
  have hrequired : optional f.toDocument "required" "required" Reads.bool =
      .ok (if f.required.given then some f.required.value else none) :=
    optional_toDocument rfl (.inl rfl) rfl
  have hunique : optional f.toDocument "unique" "unique" (Reads.orNull Reads.bool) =
      .ok (if f.unique.given then some f.unique.value else none) :=
    optional_toDocument rfl (.inl rfl) (orNull_plain _ (fun _ => rfl) fun _ h => by cases h)
  have hminLength : optional f.toDocument "minLength" "min_length" (Reads.orNull Reads.integer) =
      .ok (if f.minLength.given then some f.minLength.value else none) :=
    optional_toDocument rfl (.inr rfl) (orNull_plain _ (fun _ => rfl) fun _ h => by cases h)
  have hmaxLength : optional f.toDocument "maxLength" "max_length" (Reads.orNull Reads.integer) =
      .ok (if f.maxLength.given then some f.maxLength.value else none) :=
    optional_toDocument rfl (.inr rfl) (orNull_plain _ (fun _ => rfl) fun _ h => by cases h)
  have hpattern : optional f.toDocument "pattern" "pattern" (Reads.orNull Reads.text) =
      .ok (if f.pattern.given then some f.pattern.value else none) :=
    optional_toDocument rfl (.inl rfl) (orNull_plain _ (fun _ => rfl) fun _ h => by cases h)
  have hminimum : optional f.toDocument "min" "min" (Reads.orNull Reads.real) =
      .ok (if f.minimum.given then some f.minimum.value else none) :=
    optional_toDocument rfl (.inl rfl) (orNull_plain _ (fun _ => rfl) fun _ h => by cases h)
  have hmaximum : optional f.toDocument "max" "max" (Reads.orNull Reads.real) =
      .ok (if f.maximum.given then some f.maximum.value else none) :=
    optional_toDocument rfl (.inl rfl) (orNull_plain _ (fun _ => rfl) fun _ h => by cases h)
  have hdefault : optional f.toDocument "defaultValue" "default_value" .ok =
      .ok (if f.defaultValue.given then some f.defaultValue.value.plain else none) :=
    optional_toDocument rfl (.inr rfl) rfl
  have hinTable : optional f.toDocument "displayInDataTable" "display_in_data_table" Reads.bool =
      .ok (if f.inTable.given then some f.inTable.value else none) :=
    optional_toDocument rfl (.inr rfl) rfl
  have hsearchable : optional f.toDocument "enableSearch" "enable_search" Reads.bool =
      .ok (if f.searchable.given then some f.searchable.value else none) :=
    optional_toDocument rfl (.inr rfl) rfl
  have hplain : setting .null (.ok (if f.defaultValue.given then some f.defaultValue.value.plain
      else none)) = f.stored.defaultValue := hf.stored.default.eq_setting
  have hchecked : f.stored.checked = .ok f.stored := hf.stored.checked
  unfold ofDocument
  dsimp only
  rw [hname, htype, hrequired, hunique, hminLength, hmaxLength, hpattern, hminimum, hmaximum,
    hdefault, hinTable, hsearchable]
  rw [hf.required.eq_setting, hf.unique.eq_setting, hf.minLength.eq_setting,
    hf.maxLength.eq_setting, hf.pattern.eq_setting, hf.minimum.eq_setting, hf.maximum.eq_setting,
    hplain, hf.inTable.eq_setting, hf.searchable.eq_setting]
  have hknown : .known (setting .string (.ok (some t))).value = f.type := ht.symm
  simp only [problem, List.append_nil, List.isEmpty_nil, Bool.not_true, Bool.false_eq_true,
    if_false]
  rw [hknown]
  split
  case h_1 g hg => exact congrArg _ (Except.ok.inj (hg.symm.trans hchecked))
  case h_2 hg => cases hg.symm.trans hchecked
  case h_3 hg => cases hg.symm.trans hchecked

-- A source that is a document, or a field that was read from one.
def Source.IsSound : Source → Prop
  | .document _ => True
  | .field f => ∃ n d, ofDocument n d = .ok f

structure AreAccepted (fs : List Field) : Prop where
  accepted : ∀ f ∈ fs, f.IsAccepted
  names    : (fs.map (·.name)).Nodup

theorem IsAccepted.of_ofSource {n : Nat} {s : Source} (hs : s.IsSound) (h : ofSource n s = .ok f) :
    f.IsAccepted := by
  cases s
  case document v =>
    cases v <;> simp only [ofSource, ofValue, reduceCtorEq] at h
    case object d => exact .of_ofDocument h
  case field g =>
    cases h
    obtain ⟨_, _, h⟩ := hs
    exact .of_ofDocument h

theorem AreAccepted.of_readFrom {sources : List Source} {n : Nat} {seen : List String}
    (hs : ∀ s ∈ sources, s.IsSound) (h : readFrom n seen sources = .ok fs) :
    AreAccepted fs ∧ ∀ f ∈ fs, f.name ∉ seen := by
  induction sources generalizing n seen fs
  case nil => cases h; exact ⟨⟨by simp, .nil⟩, by simp⟩
  case cons s sources hi =>
    have ⟨hs, hr⟩ := List.forall_mem_cons.mp hs
    unfold readFrom at h
    cases hf : ofSource n s <;> simp only [hf] at h <;> try contradiction
    case ok f =>
      change (if seen.contains f.name then _ else _) = _ at h
      split at h <;> try contradiction
      case isFalse hn =>
        cases hg : readFrom (n + 1) (f.name :: seen) sources <;> rw [hg] at h <;> cases h
        case ok.refl gs =>
          have ⟨⟨ha, hd⟩, hm⟩ := hi hr hg
          simp only [List.mem_cons, not_or] at hm
          refine ⟨⟨?_, ?_⟩, ?_⟩
          case refine_1 => exact List.forall_mem_cons.mpr ⟨.of_ofSource hs hf, ha⟩
          case refine_2 =>
            rw [List.map_cons, List.nodup_cons]
            refine ⟨?_, hd⟩
            rintro hm'
            have ⟨g, hg, he⟩ := List.mem_map.mp hm'
            exact (hm g hg).1 he
          case refine_3 =>
            exact List.forall_mem_cons.mpr ⟨by simpa using hn, fun g hg => (hm g hg).2⟩

theorem AreAccepted.of_readSources {sources : List Source} (hs : ∀ s ∈ sources, s.IsSound)
    (h : readSources sources = .ok fs) : AreAccepted fs :=
  (of_readFrom hs h).1

theorem AreAccepted.stored (h : AreAccepted fs) : AreAccepted (fs.map stored) where
  accepted := by simpa using fun f hf => (h.accepted f hf).stored
  names    := by simpa [Function.comp_def, Field.stored] using h.names

theorem AreAccepted.readFrom_fieldDocuments (h : AreAccepted fs) {n : Nat} {seen : List String}
    (hn : ∀ f ∈ fs, f.name ∉ seen) :
    readFrom n seen ((EntityRow.fieldDocuments fs).map .document) = .ok (fs.map Field.stored) := by
  induction fs generalizing n seen
  case nil => rfl
  case cons f fs hi =>
    have ⟨hf, hfs⟩ := List.forall_mem_cons.mp h.accepted
    have ⟨hnf, hnfs⟩ := List.forall_mem_cons.mp hn
    have ⟨hd, hds⟩ := List.nodup_cons.mp h.names
    have hi := @hi ⟨hfs, hds⟩ (n + 1) (f.name :: seen) fun g hg => by
      simp only [List.mem_cons, not_or]
      exact ⟨fun he => hd (List.mem_map.mpr ⟨g, hg, he⟩), hnfs g hg⟩
    have hread : ofSource n (.document (.object f.toDocument)) = .ok f.stored :=
      hf.ofDocument_toDocument n
    have hc : seen.contains f.name = false := by simpa using hnf
    simp only [EntityRow.fieldDocuments, List.map_cons, List.map_map] at hi ⊢
    unfold readFrom
    rw [hread]
    change (if seen.contains f.name then _ else _) = _
    rw [hc, if_neg (by simp)]
    change (readFrom (n + 1) (f.name :: seen) _ >>= _) = _
    rw [hi]
    rfl

theorem AreAccepted.readAll_fieldDocuments (h : AreAccepted fs) :
    readAll (EntityRow.fieldDocuments fs) = .ok (fs.map Field.stored) :=
  h.readFrom_fieldDocuments (by simp)

-- Only a default may be any value, so it alone could change on the way.
theorem stored_of_ofDocument {n : Nat} {d : Document} (hd : (Value.object d).IsPlain)
    (h : ofDocument n d = .ok f) : f.stored = f := by
  have hf : f.defaultValue = setting .null (optional d "defaultValue" "default_value" .ok) := by
    unfold ofDocument at h
    dsimp only at h
    split at h
    case isTrue => cases h
    case isFalse =>
      split at h <;> cases h
      case h_1.refl hc => rw [eq_of_checked hc]
  have hv : f.defaultValue.value.IsPlain := by
    rw [hf]
    unfold optional
    split
    case h_1 => rfl
    case h_2 v hv =>
      rcases Option.or_eq_some_iff.mp hv with hv | ⟨_, hv⟩
      case inl => exact Value.isPlain_of_get? hd hv
      case inr => exact Value.isPlain_of_get? hd hv
  simp only [stored, show f.defaultValue.value.plain = _ from hv]

theorem exists_source_of_readFrom {sources : List Source} {n : Nat} {seen : List String}
    (h : readFrom n seen sources = .ok fs) (hf : f ∈ fs) :
    ∃ s ∈ sources, ∃ m, ofSource m s = .ok f := by
  induction sources generalizing n seen fs
  case nil => cases h; cases hf
  case cons s sources hi =>
    unfold readFrom at h
    cases hs : ofSource n s <;> simp only [hs] at h <;> try contradiction
    case ok g =>
      change (if seen.contains g.name then _ else _) = _ at h
      split at h <;> try contradiction
      case isFalse hn =>
        cases hg : readFrom (n + 1) (g.name :: seen) sources <;> rw [hg] at h <;> cases h
        case ok.refl gs =>
          rcases List.mem_cons.mp hf with rfl | hf
          case inl => exact ⟨s, by simp, n, hs⟩
          case inr =>
            have ⟨s', hs', m, hm⟩ := hi hg hf
            exact ⟨s', by simp [hs'], m, hm⟩

theorem map_stored_of_readAll {values : List Value} (hv : ∀ v ∈ values, v.IsPlain)
    (h : readAll values = .ok fs) : fs.map stored = fs := by
  have hf : ∀ f ∈ fs, f.stored = f := by
    intro f hf
    have ⟨s, hs, m, hm⟩ := exists_source_of_readFrom h hf
    obtain ⟨v, hv', rfl⟩ := List.mem_map.mp hs
    cases v <;> simp only [ofSource, ofValue, reduceCtorEq] at hm
    case object d => exact stored_of_ofDocument (hv _ hv') hm
  rw [List.map_congr_left hf, List.map_id']

@[simp] theorem fieldDocuments_stored :
    EntityRow.fieldDocuments (fs.map Field.stored) = EntityRow.fieldDocuments fs := by
  simp [EntityRow.fieldDocuments, Function.comp_def]

end Field

end EntityCatalog
