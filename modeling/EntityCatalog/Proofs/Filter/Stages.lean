import EntityCatalog.Proofs.Filter.Search
import Mathlib

namespace EntityCatalog

inductive FilterFlaw.IsIn : FilterFlaw → List Char → Prop
  | noColon {fragment} : ':' ∉ fragment → IsIn noColon fragment
  | noField {rest} : IsIn noField (':' :: rest)
  | noOperator {field} : field ≠ [] → ':' ∉ field → IsIn noOperator (field ++ [':'])

namespace Condition

def fragments (search : List Char) : List (List Char) := (Text.splitOn ';' search).map Text.strip

-- A fragment as a condition on the field in front of its first colon.
inductive IsReadAs : List Char → Condition → Prop
  | intro {field rest c} :
    field ≠ [] →
    ':' ∉ field →
    rest ≠ [] →
    c = ofOperatorValue (String.ofList field) rest →
    c.field = String.ofList field →
    IsReadAs (field ++ ':' :: rest) c

@[simp] theorem field_ofOperatorValue {name : String} {cs : List Char} :
    (ofOperatorValue name cs).field = name := by
  unfold ofOperatorValue
  dsimp only
  repeat' split
  all_goals rfl

variable {fragment search field rest : List Char} {flaw : FilterFlaw} {c : Condition}
  {cs : List Condition} {e : CatalogError}

theorem parse_append (hn : ':' ∉ field) :
    parse (field ++ ':' :: rest) =
      if field = [] then
        .error (.malformedFilter (String.ofList (field ++ ':' :: rest)) .noField)
      else if rest = [] then
        .error (.malformedFilter (String.ofList (field ++ ':' :: rest)) .noOperator)
      else .ok (ofOperatorValue (String.ofList field) rest) := by
  unfold parse
  rw [Text.cutAt_append hn]
  cases field
  case nil => rfl
  case cons => cases rest <;> rfl

theorem parse_of_isIn (h : flaw.IsIn fragment) :
    parse fragment = .error (.malformedFilter (String.ofList fragment) flaw) := by
  cases h
  case noColon hn => simp only [parse, Text.cutAt_eq_none hn]
  case noField rest => exact parse_append List.not_mem_nil
  case noOperator hf hn => rw [parse_append hn, if_neg hf, if_pos rfl]

theorem parse_of_isReadAs (h : IsReadAs fragment c) : parse fragment = .ok c := by
  obtain ⟨hf, hn, hr, rfl, _⟩ := h
  rw [parse_append hn, if_neg hf, if_neg hr]

theorem isIn_or_isReadAs (fragment : List Char) :
    (∃ flaw : FilterFlaw, flaw.IsIn fragment) ∨ ∃ c, IsReadAs fragment c := by
  by_cases hc : ':' ∈ fragment
  case neg => exact .inl ⟨_, .noColon hc⟩
  case pos =>
    obtain ⟨field, rest, rfl, hn⟩ := List.eq_append_cons_of_mem hc
    by_cases hf : field = []
    case pos =>
      subst hf
      exact .inl ⟨_, .noField⟩
    case neg =>
      by_cases hr : rest = []
      case pos =>
        subst hr
        exact .inl ⟨_, .noOperator hf hn⟩
      case neg => exact .inr ⟨_, .intro hf hn hr rfl field_ofOperatorValue⟩

theorem parse_eq_ok_iff : parse fragment = .ok c ↔ IsReadAs fragment c := by
  refine ⟨fun h => ?_, parse_of_isReadAs⟩
  rcases isIn_or_isReadAs fragment with ⟨flaw, hf⟩ | ⟨d, hd⟩
  case inl => cases (parse_of_isIn hf).symm.trans h
  case inr =>
    cases (parse_of_isReadAs hd).symm.trans h
    exact hd

theorem parse_eq_error_iff : parse fragment = .error e ↔
    ∃ flaw : FilterFlaw, flaw.IsIn fragment ∧
      e = .malformedFilter (String.ofList fragment) flaw := by
  constructor
  case mp =>
    intro h
    rcases isIn_or_isReadAs fragment with ⟨flaw, hf⟩ | ⟨d, hd⟩
    case inl => exact ⟨flaw, hf, Except.error.inj (h.symm.trans (parse_of_isIn hf))⟩
    case inr => cases (parse_of_isReadAs hd).symm.trans h
  case mpr =>
    rintro ⟨flaw, hf, rfl⟩
    exact parse_of_isIn hf

theorem exists_parse_eq_ok_iff :
    (∃ c, parse fragment = .ok c) ↔ ∀ flaw : FilterFlaw, ¬flaw.IsIn fragment := by
  cases h : parse fragment
  case ok c =>
    refine iff_of_true ⟨c, rfl⟩ fun flaw hf => ?_
    cases (parse_of_isIn hf).symm.trans h
  case error e =>
    have ⟨flaw, hf, _⟩ := parse_eq_error_iff.mp h
    exact iff_of_false nofun fun hn => hn flaw hf

theorem parseAll_eq_mapM (hb : ¬search.all Text.isBlank) :
    parseAll search = (fragments search).mapM parse :=
  if_neg hb

theorem parseAll_eq_ok_iff (hb : ¬search.all Text.isBlank) :
    parseAll search = .ok cs ↔ List.Forall₂ IsReadAs (fragments search) cs := by
  simp only [parseAll_eq_mapM hb, List.mapM_eq_ok_iff_forall₂, parse_eq_ok_iff]

theorem parseAll_eq_error_iff (hb : ¬search.all Text.isBlank) :
    parseAll search = .error e ↔ ∃ before fragment after, ∃ flaw : FilterFlaw,
      fragments search = before ++ fragment :: after ∧
      (∀ b ∈ before, ∀ flaw : FilterFlaw, ¬flaw.IsIn b) ∧ flaw.IsIn fragment ∧
      e = .malformedFilter (String.ofList fragment) flaw := by
  simp only [parseAll_eq_mapM hb, List.mapM_eq_error_iff, exists_parse_eq_ok_iff,
    parse_eq_error_iff, exists_and_left]

def IsFit (fields : List Field) (c : Condition) : Prop :=
  ∃ f ∈ fields, ∃ t, f.name = c.field ∧ f.type = .known t ∧ t.allows c.operator

inductive IsUnfit (fields : List Field) (c : Condition) : CatalogError → Prop
  | undeclared :
    (∀ f ∈ fields, f.name ≠ c.field) →
    IsUnfit fields c (.unknownField c.field .filter)
  | incompatible {f t} :
    f ∈ fields →
    f.name = c.field →
    f.type = .known t →
    ¬t.allows c.operator →
    IsUnfit fields c (.incompatibleOperator c.field c.operator t)

variable {fields : List Field}

theorem IsUnfit.check (hf : Field.AreAccepted fields) (h : c.IsUnfit fields e) :
    check fields c = .error e := by
  cases h
  case undeclared hn =>
    have hf : Field.find? fields c.field = none := by simpa [Field.find?] using hn
    simp [Condition.check, hf]
  case incompatible hm hn ht ha =>
    have hf := Field.find?_of_mem hf.names hm
    rw [hn] at hf
    simp [Condition.check, hf, checkOperator, ht, ha, hn]

theorem IsFit.check (hf : Field.AreAccepted fields) (h : c.IsFit fields) :
    check fields c = .ok () := by
  obtain ⟨f, hm, t, hn, ht, ha⟩ := h
  have hf := Field.find?_of_mem hf.names hm
  rw [hn] at hf
  simp [Condition.check, hf, checkOperator, ht, ha]

theorem isFit_or_isUnfit (hf : Field.AreAccepted fields) (c : Condition) :
    c.IsFit fields ∨ ∃ e, c.IsUnfit fields e := by
  by_cases hd : ∃ f ∈ fields, f.name = c.field
  case pos =>
    obtain ⟨f, hm, hn⟩ := hd
    obtain ⟨t, ht⟩ := (hf.accepted f hm).known
    by_cases ha : t.allows c.operator
    case pos => exact .inl ⟨f, hm, t, hn, ht, ha⟩
    case neg => exact .inr ⟨_, .incompatible hm hn ht ha⟩
  case neg => exact .inr ⟨_, .undeclared fun f hm hn => hd ⟨f, hm, hn⟩⟩

theorem check_eq_ok_iff (hf : Field.AreAccepted fields) :
    check fields c = .ok () ↔ c.IsFit fields := by
  refine ⟨fun h => ?_, IsFit.check hf⟩
  rcases isFit_or_isUnfit hf c with hc | ⟨e, he⟩
  case inl => exact hc
  case inr => cases (he.check hf).symm.trans h

theorem check_eq_error_iff (hf : Field.AreAccepted fields) :
    check fields c = .error e ↔ c.IsUnfit fields e := by
  refine ⟨fun h => ?_, IsUnfit.check hf⟩
  rcases isFit_or_isUnfit hf c with hc | ⟨e', he⟩
  case inl => cases (hc.check hf).symm.trans h
  case inr =>
    cases (he.check hf).symm.trans h
    exact he

theorem checkAll_eq_ok_iff (hf : Field.AreAccepted fields) :
    checkAll fields cs = .ok () ↔ ∀ c ∈ cs, c.IsFit fields := by
  simp only [checkAll, List.forM_eq_ok_iff, check_eq_ok_iff hf]

theorem checkAll_eq_error_iff (hf : Field.AreAccepted fields) :
    checkAll fields cs = .error e ↔ ∃ before c after, cs = before ++ c :: after ∧
      (∀ b ∈ before, b.IsFit fields) ∧ c.IsUnfit fields e := by
  simp only [checkAll, List.forM_eq_error_iff, check_eq_ok_iff hf, check_eq_error_iff hf]

end Condition

def Predicate.path? : Predicate → Option String
  | .equals path _ | .notEquals path _ | .contains _ path _ | .compares _ path _ | .anyOf path _
  | .noneOf path _ | .absent path | .present path | .foreignEquals path _ => some path
  | .always | .all _ | .any _ => none

namespace Condition

variable {fields : List Field} {c : Condition} {cs : List Condition} {type : DeclaredType}
  {p : Predicate} {ps : List Predicate}

theorem path?_of_compile? (h : c.compile? type = some p) : p.path? = some c.field := by
  unfold compile? at h
  dsimp only at h
  split at h
  case h_1 | h_2 | h_3 | h_4 => cases h; rfl
  all_goals
    obtain ⟨_, _, rfl⟩ := Option.map_eq_some_iff.mp h
    rfl

def HasClause (fields : List Field) (c : Condition) (p : Predicate) : Prop :=
  c.compile? (c.typeIn fields) = some p ∧ p.path? = some c.field

theorem compileAll?_eq_some_iff (hn : cs ≠ []) :
    compileAll? fields cs = some p ↔ ∃ ps, List.Forall₂ (HasClause fields) cs ps ∧ p = .all ps := by
  have hc : (fun (c : Condition) p => c.compile? (c.typeIn fields) = some p) = HasClause fields :=
    funext₂ fun _ _ => propext (and_iff_left_of_imp path?_of_compile?).symm
  unfold compileAll?
  split
  case h_1 => exact absurd rfl hn
  case h_2 => simp only [Option.map_eq_some_iff, List.mapM_eq_some_iff_forall₂, hc, @eq_comm _ p]

end Condition

namespace Query

open Condition

-- The filter that a search comes to, or why it comes to none.
inductive ComesTo (fields : List Field) (search : List Char) :
    Except Failure (Option Predicate) → Prop
  | nothing :
    search = [] →
    ComesTo fields search (.ok none)
  | blank :
    search ≠ [] →
    search.all Text.isBlank →
    ComesTo fields search (.ok (some .always))
  | malformed {before fragment after} {flaw : FilterFlaw} :
    ¬search.all Text.isBlank →
    fragments search = before ++ fragment :: after →
    (∀ b ∈ before, ∀ flaw : FilterFlaw, ¬flaw.IsIn b) →
    flaw.IsIn fragment →
    ComesTo fields search (.error (.rejected (.malformedFilter (String.ofList fragment) flaw)))
  | unfit {before c after e} :
    ¬search.all Text.isBlank →
    List.Forall₂ IsReadAs (fragments search) (before ++ c :: after) →
    (∀ b ∈ before, b.IsFit fields) →
    c.IsUnfit fields e →
    ComesTo fields search (.error (.rejected e))
  -- A moment outside of the calendar.
  | beyond {cs} :
    ¬search.all Text.isBlank →
    List.Forall₂ IsReadAs (fragments search) cs →
    (∀ c ∈ cs, c.IsFit fields) →
    (∃ c ∈ cs, c.IsBeyond (c.typeIn fields)) →
    ComesTo fields search (.error .overflow)
  | clauses {cs ps} :
    ¬search.all Text.isBlank →
    List.Forall₂ IsReadAs (fragments search) cs →
    (∀ c ∈ cs, c.IsFit fields) →
    List.Forall₂ (HasClause fields) cs ps →
    ComesTo fields search (.ok (some (.all ps)))

variable {fields : List Field} {limits : PageLimits} {search : String} {asked : QueryText}
  {q : Query} {r : Except Failure (Option Predicate)} {f : Failure}

theorem parseSearch_of_blank (hb : search.toList.all Text.isBlank) :
    parseSearch fields search = .ok .always := by
  simp only [parseSearch, parseAll, hb, if_true]
  rfl

theorem parseSearch_of_parseAll_error {e : CatalogError}
    (h : parseAll search.toList = .error e) :
    parseSearch fields search = .error (.rejected e) := by
  simp only [parseSearch, h, Failure.lift, bind, Except.bind]

theorem parseSearch_of_checkAll_error {e : CatalogError} {cs : List Condition}
    (h : parseAll search.toList = .ok cs) (hk : checkAll fields cs = .error e) :
    parseSearch fields search = .error (.rejected e) := by
  simp only [parseSearch, h, hk, Failure.lift, bind, Except.bind]

theorem parseSearch_of_checkAll {cs : List Condition} (h : parseAll search.toList = .ok cs)
    (hk : checkAll fields cs = .ok ()) :
    parseSearch fields search = match compileAll? fields cs with
      | some p => .ok p
      | none => .error .overflow := by
  unfold parseSearch
  rw [h, Failure.lift]
  change (do Failure.lift (checkAll fields cs); _) = _
  rw [hk]
  rfl

theorem mapM_given? : (given? (some search)).mapM (parseSearch fields) =
    if search = "" then .ok none else (parseSearch fields search).map some := by
  by_cases hs : search = ""
  case pos =>
    subst hs
    rfl
  case neg =>
    have hg : given? (some search) = some search := by simp [given?, hs]
    rw [hg, if_neg hs, Option.mapM_some]
    rfl

theorem conditions_ne_nil {cs : List Condition}
    (h : List.Forall₂ IsReadAs (fragments search.toList) cs) : cs ≠ [] := by
  rintro rfl
  exact Text.splitOn_ne_nil ';' search.toList
    (List.map_eq_nil_iff.mp (List.forall₂_nil_right_iff.mp h))

theorem ComesTo.eq (hf : Field.AreAccepted fields) (h : ComesTo fields search.toList r) :
    r = (given? (some search)).mapM (parseSearch fields) := by
  have hs : ¬search.toList.all Text.isBlank → search ≠ "" := by
    rintro hb rfl
    exact hb rfl
  rw [mapM_given?]
  cases h
  case nothing hn => rw [if_pos (String.toList_eq_nil_iff.mp hn)]
  case blank hn hb =>
    rw [if_neg (String.toList_eq_nil_iff.not.mp hn), parseSearch_of_blank hb]
    rfl
  case malformed hb he hw hi =>
    have hp := (parseAll_eq_error_iff hb).mpr ⟨_, _, _, _, he, hw, hi, rfl⟩
    rw [if_neg (hs hb), parseSearch_of_parseAll_error hp]
    rfl
  case unfit before c after e hb hr hw hu =>
    have hk := (checkAll_eq_error_iff hf).mpr ⟨before, c, after, rfl, hw, hu⟩
    rw [if_neg (hs hb), parseSearch_of_checkAll_error ((parseAll_eq_ok_iff hb).mpr hr) hk]
    rfl
  case beyond hb hr hw hu =>
    have hp := (parseAll_eq_ok_iff hb).mpr hr
    have hc := (compileAll?_eq_none_iff (isRead_of_parseAll hp)).mpr hu
    rw [if_neg (hs hb), parseSearch_of_checkAll hp ((checkAll_eq_ok_iff hf).mpr hw), hc]
    rfl
  case clauses hb hr hw hp =>
    have hc := (compileAll?_eq_some_iff (conditions_ne_nil hr)).mpr ⟨_, hp, rfl⟩
    rw [if_neg (hs hb), parseSearch_of_checkAll ((parseAll_eq_ok_iff hb).mpr hr)
      ((checkAll_eq_ok_iff hf).mpr hw), hc]
    rfl

theorem exists_comesTo (hf : Field.AreAccepted fields) (search : String) :
    ∃ r, ComesTo fields search.toList r := by
  by_cases hs : search = ""
  case pos => exact ⟨_, .nothing (String.toList_eq_nil_iff.mpr hs)⟩
  case neg =>
    by_cases hb : search.toList.all Text.isBlank
    case pos => exact ⟨_, .blank (String.toList_eq_nil_iff.not.mpr hs) hb⟩
    case neg =>
      cases hp : parseAll search.toList
      case error e =>
        obtain ⟨before, fragment, after, flaw, he, hw, hi, rfl⟩ :=
          (parseAll_eq_error_iff hb).mp hp
        exact ⟨_, .malformed hb he hw hi⟩
      case ok cs =>
        have hr := (parseAll_eq_ok_iff hb).mp hp
        cases hk : checkAll fields cs
        case error e =>
          obtain ⟨before, c, after, rfl, hw, hu⟩ := (checkAll_eq_error_iff hf).mp hk
          exact ⟨_, .unfit hb hr hw hu⟩
        case ok =>
          have hw := (checkAll_eq_ok_iff hf).mp hk
          cases hc : compileAll? fields cs
          case none =>
            have hu := (compileAll?_eq_none_iff (isRead_of_parseAll hp)).mp hc
            exact ⟨_, .beyond hb hr hw hu⟩
          case some p =>
            obtain ⟨ps, hps, rfl⟩ := (compileAll?_eq_some_iff (conditions_ne_nil hr)).mp hc
            exact ⟨_, .clauses hb hr hw hps⟩

theorem comesTo_iff (hf : Field.AreAccepted fields) : ComesTo fields search.toList r ↔
    r = (given? (some search)).mapM (parseSearch fields) := by
  refine ⟨ComesTo.eq hf, ?_⟩
  rintro rfl
  obtain ⟨r, hr⟩ := exists_comesTo hf search
  exact hr.eq hf ▸ hr

-- Nothing else that is asked for changes the filter, and a search without one is the first to fail.
theorem parse_of_search_error (h : (given? asked.search).mapM (parseSearch fields) = .error f) :
    parse fields limits asked = .error f := by
  simp only [parse, h, bind, Except.bind]

theorem search_of_parse (h : parse fields limits asked = .ok q) :
    (given? asked.search).mapM (parseSearch fields) = .ok q.filter := by
  unfold parse at h
  cases hm : (given? asked.search).mapM (parseSearch fields) <;>
    simp only [hm, bind, Except.bind, reduceCtorEq] at h
  repeat' split at h
  all_goals cases h
  all_goals rfl

theorem parse_search : parse fields limits { search := some search } =
    ((given? (some search)).mapM (parseSearch fields)).map ({ filter := · }) := by
  unfold parse
  cases (given? (some search)).mapM (parseSearch fields) <;> rfl

-- Every search comes to one outcome, whatever else is asked for; a blank one selects everything.
theorem parse_comesTo {sources : List Field.Source} (hs : ∀ s ∈ sources, s.IsSound)
    (hr : Field.readSources sources = .ok fields) (limits : PageLimits) (search : String) :
    ∃ r, (∀ r', ComesTo fields search.toList r' ↔ r' = r) ∧
      (search.toList.all Text.isBlank → ∃ filter, r = .ok filter ∧ ∀ p ∈ filter, ∀ d, p.holds d) ∧
      parse fields limits { search := some search } = r.map ({ filter := · }) ∧
      ∀ asked, asked.search = some search →
        (∀ f, r = .error f → parse fields limits asked = .error f) ∧
        ∀ q, parse fields limits asked = .ok q → r = .ok q.filter := by
  have hf := Field.AreAccepted.of_readSources hs hr
  refine ⟨_, fun _ => comesTo_iff hf, fun hb => ?_, parse_search,
    fun asked ha => ⟨fun f h => ?_, fun q h => ?_⟩⟩
  case refine_1 =>
    rw [mapM_given?, parseSearch_of_blank hb]
    split
    case isTrue => exact ⟨none, rfl, nofun⟩
    case isFalse => exact ⟨some .always, rfl, by simp [Predicate.holds]⟩
  case refine_2 => exact parse_of_search_error (ha ▸ h)
  case refine_3 => exact ha ▸ search_of_parse h

theorem parse_comesTo_noColon :
    parse [{ name := "code", type := .known .string }] {}
        { search := some "ghost:eq1; code ;code:", sort := some "ghost" } =
      .error (.rejected (.malformedFilter "code" .noColon)) := by
  have hs : ∀ s ∈ [Field.Source.document (.object [("name", .text "code"),
      ("type", .text "string")])], s.IsSound := by
    simp [Field.Source.IsSound]
  have hr : Field.readSources [.document (.object [("name", .text "code"),
      ("type", .text "string")])] = .ok [{ name := "code", type := .known .string }] := rfl
  obtain ⟨r, hc, _, _, ha⟩ := parse_comesTo hs hr {} "ghost:eq1; code ;code:"
  have he : fragments "ghost:eq1; code ;code:".toList =
      ["ghost:eq1".toList] ++ "code".toList :: ["code:".toList] := rfl
  have hg : ∀ flaw : FilterFlaw, ¬flaw.IsIn "ghost:eq1".toList :=
    exists_parse_eq_ok_iff.mp ⟨_, rfl⟩
  have hr := (hc _).mp (.malformed (by decide) he (by simpa using hg) (.noColon (by decide)))
  exact (ha _ rfl).1 _ hr.symm

end Query

end EntityCatalog
