import EntityCatalog.Proofs.Catalog.Reachable
import EntityCatalog.Proofs.Filter.Search
import EntityCatalog.Proofs.Filter.Shape
import EntityCatalog.Proofs.Predicate.Relation
import EntityCatalog.Proofs.Validation.Admission
import Mathlib

namespace EntityCatalog

open Binary64 (IsExact)
open Text (isAsciiDigit)

-- The values that an integer may be told as.
inductive Value.Stands (n : Int) : Value → Prop
  | number {v i} : v.IsWorth i → IsExact i → (IsExact n → i = n) → Stands n v
  | text {s} : ¬IsExact n → Stands n (.text s)

namespace Shape

variable {cs : List Char} {n i : Int} {x : Binary64}

theorem isWorth_numberValue (hx : x.isInRange) (hi : x.toInt? = some i) :
    (numberValue x).IsWorth i := by
  simp only [numberValue, hi]
  split
  case isTrue => exact .int
  case isFalse => exact .real hx (Binary64.worth_of_toInt? hi)

namespace Writes

variable (h : Writes cs n)

include h

theorem stands : Value.Stands n (value cs) := by
  obtain ⟨x, hx, hn⟩ := h.number?_eq
  rcases hx with ⟨hx, hi, he, hk⟩ | hx
  case finite =>
    have hf : x.isFinite := by cases x <;> simp_all [Binary64.isInRange, Binary64.isFinite]
    rw [value, hn, if_pos hf]
    exact .number (isWorth_numberValue hx hi) he hk
  case infinite =>
    rw [h.value_eq hn]
    exact .text hx

theorem canonical?_value : (value cs).canonical? = some (value cs) := by
  generalize hv : value cs = v
  cases hv ▸ h.stands
  case number hw => cases hw <;> rfl
  case text => rfl

theorem isToken : Phrase.IsToken cs where
  single hc := absurd (h.toNat_of_mem hc) (by decide)
  whole hc := absurd (h.toNat_of_mem hc) (by decide)
  first hb := by
    obtain ⟨c, hc, hb⟩ := (Option.any_eq_true _ _).mp hb
    simp [h.not_isBlank_of_mem (List.mem_of_head? hc)] at hb
  last hb := by
    obtain ⟨c, hc, hb⟩ := (Option.any_eq_true _ _).mp hb
    simp [h.not_isBlank_of_mem (List.mem_of_getLast? hc)] at hb

theorem isValue : Phrase.IsValue cs := ⟨h.isToken.whole, h.isToken.last⟩

theorem head?_ne : cs.head? ≠ some 'e' := fun hc =>
  absurd (h.toNat_of_mem (List.mem_of_head? hc)) (by decide)

end Writes

end Shape

def Operator.relation? : Operator → Option (Int → Int → Prop)
  | .equals => some (· = ·)
  | .notEquals => some (· ≠ ·)
  | .less => some (· < ·)
  | .lessOrEqual => some (· ≤ ·)
  | .greater => some (· > ·)
  | .greaterOrEqual => some (· ≥ ·)
  | _ => none

namespace Predicate

variable {d : Document} {path : String} {m : Int} {q : Int → Prop} {p : Predicate}
  {vs : List Value}

-- A predicate that is true of a document with an integer, if and only if something is true of the
-- integer.
def FindsIntegers (p : Predicate) (path : String) (q : Int → Prop) : Prop :=
  ∀ (d : Document) m, d.get? path = some (.int m) → (p.holds d ↔ q m)

theorem FindsIntegers.holds_iff (h : p.FindsIntegers path q) (m : Int) :
    p.holds [(path, .int m)] ↔ q m :=
  h _ m (by simp [Document.get?_cons])

@[simp] theorem findsIntegers_all_singleton :
    (all [p]).FindsIntegers path q ↔ p.FindsIntegers path q := by
  simp only [FindsIntegers, holds_all_singleton]

theorem holds_anyOf_int_iff (hd : d.get? path = some (.int m)) :
    (anyOf path vs).holds d ↔ ∃ v ∈ vs, (Value.int m).matchesSame v := by
  simp [holds, Document.present?, hd]

theorem holds_noneOf_int_iff (hd : d.get? path = some (.int m)) :
    (noneOf path vs).holds d ↔ ¬(anyOf path vs).holds d := by
  simp [holds, Document.present?, hd]

end Predicate

namespace Operator

variable {operator : Operator} {r : Int → Int → Prop} {q : String → Value → Predicate}
  {d : Document} {path s : String} {v : Value} {m n i : Int}

theorem exists_predicate? (hr : operator.relation? = some r) :
    ∃ q, operator.predicate? = some q := by
  cases operator <;> cases hr <;> exact ⟨_, rfl⟩

theorem eq_of_relation? (hr : operator.relation? = some r) (h : ∀ m, r m i ↔ r m n) : i = n := by
  have hi := h i
  have hn := h n
  cases operator <;> cases hr <;> simp at hi hn <;> omega

theorem holds_iff (hr : operator.relation? = some r) (hq : operator.predicate? = some q)
    (hd : d.get? path = some (.int m)) (hv : v.IsWorth i) : (q path v).holds d ↔ r m i := by
  have hp : d.present? path = some (.int m) := by simp [Document.present?, hd]
  cases operator <;> cases hr <;> cases hq
  case equals.refl.refl => simpa [Predicate.holds, hp] using hv.matchesSame_iff
  case notEquals.refl.refl => simpa [Predicate.holds, hp] using not_congr hv.matchesSame_iff
  all_goals
    rw [Predicate.holds, hp, Option.any_some]
    exact hv.holds_iff

theorem holds_text_iff (hq : operator.predicate? = some q) (hd : d.get? path = some (.int m)) :
    (q path (.text s)).holds d ↔ operator = .notEquals := by
  have hp : d.present? path = some (.int m) := by simp [Document.present?, hd]
  cases operator <;> cases hq <;>
    simp [Predicate.holds, hp, Value.matchesSame, Value.isBool, Value.same, Value.position?,
      Comparison.holds]

-- A condition asks for the integer that its value is worth, so for the one that is typed if they
-- are the same; and a text does not ask for any.
theorem findsIntegers_iff (hr : operator.relation? = some r) (hq : operator.predicate? = some q)
    (hv : v.Stands n) : (q path v).FindsIntegers path (r · n) ↔ IsExact n := by
  rcases hv with ⟨hw, hi, hn⟩ | hx
  case number i =>
    have hf : (q path v).FindsIntegers path (r · i) := fun d m hd => holds_iff hr hq hd hw
    constructor
    case mp =>
      intro h
      have he := eq_of_relation? hr fun m => (hf.holds_iff m).symm.trans (h.holds_iff m)
      exact he ▸ hi
    case mpr => exact fun hx => hn hx ▸ hf
  case text s =>
    have hf : (q path (.text s)).FindsIntegers path fun _ => operator = .notEquals :=
      fun d m hd => holds_text_iff hq hd
    refine ⟨fun h => ?_, fun h => absurd h hx⟩
    have ht : ∀ m, operator = .notEquals ↔ r m n := fun m =>
      (hf.holds_iff m).symm.trans (h.holds_iff m)
    have hl := ht (n - 1)
    have he := ht n
    have hg := ht (n + 1)
    cases operator <;> cases hr <;> simp at hl he hg

end Operator

namespace Value.Stands

variable {v : Value} {n m : Int}

theorem matchesSame_iff (h : v.Stands n) (hx : IsExact n) : (int m).matchesSame v ↔ m = n := by
  rcases h with ⟨hw, _, hn⟩ | ht
  case number => rw [hw.matchesSame_iff, hn hx]
  case text => exact absurd hx ht

theorem not_matchesSame_text {s : String} : ¬(int m).matchesSame (.text s) := by
  simp [matchesSame, isBool, same, position?]

theorem isExact_of_matchesSame (h : v.Stands n) (hm : (int m).matchesSame v) : IsExact m := by
  rcases h with ⟨hw, hi, _⟩ | _
  case number => exact hw.matchesSame_iff.mp hm ▸ hi
  case text => exact absurd hm not_matchesSame_text

end Value.Stands

namespace Predicate

variable {path : String} {ns : List Int} {vs : List Value}
  (hv : ∀ v ∈ vs, (∃ s, v = .text s) ∨ ∃ n ∈ ns, v.Stands n) (hn : ∀ n ∈ ns, ∃ v ∈ vs, v.Stands n)

include hv hn

theorem anyOf_findsIntegers_iff :
    (anyOf path vs).FindsIntegers path (· ∈ ns) ↔ ∀ n ∈ ns, IsExact n := by
  constructor
  case mp =>
    intro h n hm
    have hd : Document.get? [(path, .int n)] path = some (.int n) := by simp [Document.get?_cons]
    obtain ⟨v, hvm, hs⟩ := (holds_anyOf_int_iff hd).mp ((h _ n hd).mpr hm)
    rcases hv v hvm with ⟨s, rfl⟩ | ⟨n', _, ht⟩
    case inl => exact absurd hs Value.Stands.not_matchesSame_text
    case inr => exact ht.isExact_of_matchesSame hs
  case mpr =>
    intro hx d m hd
    rw [holds_anyOf_int_iff hd]
    constructor
    case mp =>
      rintro ⟨v, hvm, hs⟩
      rcases hv v hvm with ⟨s, rfl⟩ | ⟨n, hm, ht⟩
      case inl => exact absurd hs Value.Stands.not_matchesSame_text
      case inr => exact (ht.matchesSame_iff (hx n hm)).mp hs ▸ hm
    case mpr =>
      intro hm
      obtain ⟨v, hvm, ht⟩ := hn m hm
      exact ⟨v, hvm, (ht.matchesSame_iff (hx m hm)).mpr rfl⟩

theorem noneOf_findsIntegers_iff :
    (noneOf path vs).FindsIntegers path (· ∉ ns) ↔ ∀ n ∈ ns, IsExact n := by
  rw [← anyOf_findsIntegers_iff hv hn]
  refine forall_congr' fun d => forall_congr' fun m => forall_congr' fun hd => ?_
  rw [holds_noneOf_int_iff hd, not_iff_not]

end Predicate

namespace Field

variable {f : Field} {fs : List Field} {m : Int}

def IsUnbounded (f : Field) : Prop := f.minimum.value = none ∧ f.maximum.value = none

theorem takes_int_iff (ht : f.type = .known .number) (hb : f.IsUnbounded) {w : Value} :
    f.Takes (.int m) w ↔ w = .int m := by
  rw [Takes.int_iff ht, and_iff_left ⟨by simp [hb.1], by simp [hb.2]⟩]

section Records

variable (hf : AreAccepted fs) (hm : f ∈ fs) (ht : f.type = .known .number) (hb : f.IsUnbounded)

include hf hm ht hb

theorem get?_int_of_apply {v : Validator} (hg : Validator.generate fs = .ok v) {extent : Extent}
    {d out : Document} (hd : d.get? f.name = some (.int m))
    (h : v.apply extent (.object d) = .ok out) : out.get? f.name = some (.int m) :=
  Validator.get?_of_apply hf hg h hm hd fun _ => (takes_int_iff ht hb).mp

theorem exists_record?_update {limits : PageLimits} {c : Catalog} {scope name id : String}
    {e : Entity} {r : RecordRow} {v : Validator} {g : Grant} (hc : Catalog.Reachable limits c)
    (he : c.tables.entity? scope name = .ok (some e)) (hes : e.fields = fs)
    (hg : Validator.generate fs = .ok v) (hr : c.tables.record? scope name id = some r) :
    ∃ r', (c.update g scope name id (.object [(f.name, .int m)])).catalog.tables.record?
        scope name id = some r' ∧ r'.data.get? f.name = some (.int m) := by
  subst hes
  have hw : f.Takes (.int m) (.int m) := (takes_int_iff ht hb).mpr rfl
  obtain ⟨out, ho⟩ := Validator.exists_apply_single hf hg hm hw
  have hd : Document.get? [(f.name, .int m)] f.name = some (.int m) := by simp [Document.get?_cons]
  have hi := get?_int_of_apply hf hm ht hb hg hd ho
  refine ⟨_, hc.isSound.record?_update he hr hg ho, ?_⟩
  rw [Document.get?_merge (Validator.nodup_keys_of_apply hf hg ho), hi]
  rfl

end Records

end Field

namespace Query

open Shape

section Searches

variable {fs : List Field} {f : Field} (hf : Field.AreAccepted fs) (hm : f ∈ fs)
  (ht : f.type = .known .number)

include hf hm ht

theorem parseSearch_integer {operator : Operator} {r : Int → Int → Prop} {t : String} {n : Int}
    (hr : operator.relation? = some r) (hw : Writes t.toList n) :
    ∃ p, parseSearch fs (f.name ++ ":" ++ operator.token ++ t) = .ok p ∧
      (p.FindsIntegers f.name (r · n) ↔ IsExact n) := by
  obtain ⟨q, hq⟩ := Operator.exists_predicate? hr
  have ha : FieldType.number.allows operator := by cases operator <;> cases hr <;> rfl
  have hp := parseSearch_led hf hm ht rfl hq ha hw.isValue (fun _ => hw.head?_ne)
    hw.canonical?_value
  refine ⟨_, hp, ?_⟩
  rw [Predicate.findsIntegers_all_singleton, Operator.findsIntegers_iff hr hq hw.stands]

omit hf hm ht in
theorem exists_texts {ts : List String} {ns : List Int}
    (hw : List.Forall₂ (fun t n => Writes t.toList n) ts ns) :
    ∃ us : List String, us ≠ [] ∧ ",".intercalate us = ",".intercalate ts ∧
      (∀ u ∈ us, Phrase.IsToken u.toList ∧
        (Shape.value u.toList).canonical? = some (Shape.value u.toList) ∧
        ((∃ s, Shape.value u.toList = .text s) ∨ ∃ n ∈ ns, (Shape.value u.toList).Stands n)) ∧
      ∀ n ∈ ns, ∃ u ∈ us, (Shape.value u.toList).Stands n := by
  by_cases hn : ts = []
  case pos =>
    subst hn
    cases hw
    have he : Shape.value "".toList = .text "" := by rfl
    refine ⟨[""], by simp, rfl, ?_, by simp⟩
    simp only [List.mem_singleton, forall_eq, he]
    exact ⟨⟨by simp, by simp, by decide, by decide⟩, rfl, .inl ⟨"", rfl⟩⟩
  case neg =>
    refine ⟨ts, hn, rfl, fun t hm => ?_, fun n hm => ?_⟩
    case refine_1 =>
      obtain ⟨n, hn, ht⟩ := hw.exists_of_mem hm
      exact ⟨ht.isToken, ht.canonical?_value, .inr ⟨n, hn, ht.stands⟩⟩
    case refine_2 =>
      obtain ⟨t, ht, hn⟩ := hw.flip.exists_of_mem hm
      exact ⟨t, ht, hn.stands⟩

theorem parseSearch_integers {ts : List String} {ns : List Int}
    (hw : List.Forall₂ (fun t n => Writes t.toList n) ts ns) :
    (∃ p, parseSearch fs (f.name ++ ":in[" ++ ",".intercalate ts ++ "]") = .ok p ∧
      (p.FindsIntegers f.name (· ∈ ns) ↔ ∀ n ∈ ns, IsExact n)) ∧
    ∃ p, parseSearch fs (f.name ++ ":nin[" ++ ",".intercalate ts ++ "]") = .ok p ∧
      (p.FindsIntegers f.name (· ∉ ns) ↔ ∀ n ∈ ns, IsExact n) := by
  obtain ⟨us, hn, he, hu, hs⟩ := exists_texts hw
  rw [← he]
  have hv : ∀ v ∈ us.map fun u => Shape.value u.toList,
      (∃ s, v = .text s) ∨ ∃ n ∈ ns, v.Stands n :=
    List.forall_mem_map.mpr fun u hm => (hu u hm).2.2
  have hs : ∀ n ∈ ns, ∃ v ∈ us.map fun u => Shape.value u.toList, v.Stands n := by
    simpa using hs
  refine ⟨⟨_, parseSearch_anyOf hf hm ht rfl rfl hn (fun u hm => (hu u hm).1)
    (fun u hm => (hu u hm).2.1), ?_⟩, ⟨_, parseSearch_noneOf hf hm ht rfl rfl hn
    (fun u hm => (hu u hm).1) (fun u hm => (hu u hm).2.1), ?_⟩⟩
  case refine_1 =>
    rw [Predicate.findsIntegers_all_singleton, Predicate.anyOf_findsIntegers_iff hv hs]
  case refine_2 =>
    rw [Predicate.findsIntegers_all_singleton, Predicate.noneOf_findsIntegers_iff hv hs]

end Searches

-- A search with a typed integer asks for it if and only if binary64 has it, by every operator and
-- in every list. What is stored is never rounded, whatever its size.
theorem parseSearch_findsIntegers {sources : List Field.Source} {fs : List Field} {f : Field}
    (hs : ∀ s ∈ sources, s.IsSound) (hr : Field.readSources sources = .ok fs) (hm : f ∈ fs)
    (ht : f.type = .known .number) :
    (∀ operator r t n, Operator.relation? operator = some r → Writes t.toList n →
      ∃ p, parseSearch fs (f.name ++ ":" ++ operator.token ++ t) = .ok p ∧
        (p.FindsIntegers f.name (r · n) ↔ IsExact n)) ∧
    (∀ (ts : List String) ns, List.Forall₂ (fun t n => Writes t.toList n) ts ns →
      (∃ p, parseSearch fs (f.name ++ ":in[" ++ ",".intercalate ts ++ "]") = .ok p ∧
        (p.FindsIntegers f.name (· ∈ ns) ↔ ∀ n ∈ ns, IsExact n)) ∧
      ∃ p, parseSearch fs (f.name ++ ":nin[" ++ ",".intercalate ts ++ "]") = .ok p ∧
        (p.FindsIntegers f.name (· ∉ ns) ↔ ∀ n ∈ ns, IsExact n)) ∧
    (f.IsUnbounded → ∀ v, Validator.generate fs = .ok v → ∀ m : Int,
      (∀ extent d, d.get? f.name = some (.int m) →
        ¬f.Fails extent d ∧
        ∀ out, v.apply extent (.object d) = .ok out → out.get? f.name = some (.int m)) ∧
      ∀ limits c scope name id e r g, Catalog.Reachable limits c →
        c.tables.entity? scope name = .ok (some e) → e.fields = fs →
        c.tables.record? scope name id = some r →
        ∃ r', (c.update g scope name id (.object [(f.name, .int m)])).catalog.tables.record?
            scope name id = some r' ∧ r'.data.get? f.name = some (.int m)) := by
  have hf := Field.AreAccepted.of_readSources hs hr
  refine ⟨fun operator r t n hr hw => parseSearch_integer hf hm ht hr hw,
    fun ts ns hw => parseSearch_integers hf hm ht hw, fun hb v hg m => ⟨fun extent d hd => ?_, ?_⟩⟩
  case refine_1 =>
    have hu : f.effective? extent d = some (.int m) := by simp [Field.effective?, hd]
    exact ⟨((Field.takes_int_iff ht hb).mpr rfl).not_fails hu,
      fun out ho => Field.get?_int_of_apply hf hm ht hb hg hd ho⟩
  case refine_2 =>
    intro limits c scope name id e r g hc he hes hr
    exact Field.exists_record?_update hf hm ht hb hc he hes hg hr

def serial : Field := { name := "serial", type := .known .number }

theorem parseSearch_findsIntegers_serial :
    ∃ p q v, parseSearch [serial] ("serial" ++ ":" ++ "lte" ++ "18446744073709551616") = .ok p ∧
      p.FindsIntegers "serial" (· ≤ 18446744073709551616) ∧
      parseSearch [serial] ("serial" ++ ":in[" ++ ",".intercalate ["+7", "-12"] ++ "]") = .ok q ∧
      q.FindsIntegers "serial" (· ∈ [7, -12]) ∧
      Validator.generate [serial] = .ok v ∧
      ∀ out, v.apply .whole (.object [("serial", .int 9007199254740993)]) = .ok out →
        out.get? "serial" = some (.int 9007199254740993) := by
  have hs : ∀ s ∈ [Field.Source.document (.object [("name", .text "serial"),
      ("type", .text "number")])], s.IsSound := by
    simp [Field.Source.IsSound]
  have hr : Field.readSources [.document (.object [("name", .text "serial"),
      ("type", .text "number")])] = .ok [serial] := rfl
  have hw : Writes "18446744073709551616".toList 18446744073709551616 :=
    @Writes.mk false [] "18446744073709551616".toList .none (by decide) (by simp [isAsciiDigit])
  have hx : IsExact 18446744073709551616 := ⟨1, 64, by decide, by decide, rfl⟩
  have hp : Writes "+7".toList 7 :=
    @Writes.mk false ['+'] ['7'] .plus (by simp) (by simp [isAsciiDigit])
  have hm : Writes "-12".toList (-12) :=
    @Writes.mk true ['-'] ['1', '2'] .minus (by simp) (by simp [isAsciiDigit])
  have hl : ∀ n ∈ ([7, -12] : List Int), IsExact n := by
    simp only [List.forall_mem_cons, List.not_mem_nil, false_implies, implies_true, and_true]
    exact ⟨⟨7, 0, by decide, by decide, rfl⟩, ⟨12, 0, by decide, by decide, rfl⟩⟩
  obtain ⟨hone, hlist, hstored⟩ := parseSearch_findsIntegers hs hr List.mem_cons_self rfl
  obtain ⟨p, hpp, hpi⟩ := hone .lessOrEqual _ _ _ rfl hw
  obtain ⟨⟨q, hqp, hqi⟩, _⟩ := hlist ["+7", "-12"] [7, -12] (.cons hp (.cons hm .nil))
  obtain ⟨v, hg⟩ := (Validator.generate_isOk_iff (Field.AreAccepted.of_readSources hs hr)).mpr rfl
  have hv := (hstored ⟨rfl, rfl⟩ v hg 9007199254740993).1 .whole
    [("serial", .int 9007199254740993)] rfl
  exact ⟨p, q, v, hpp, hpi.mpr hx, hqp, hqi.mpr hl, hg, hv.2⟩

theorem not_findsIntegers_serial :
    ∃ p, parseSearch [serial] "serial:eq9007199254740993" = .ok p ∧
      ¬p.holds [("serial", .int 9007199254740993)] ∧
      p.holds [("serial", .int 9007199254740992)] :=
  ⟨_, rfl, by decide +kernel, by decide +kernel⟩

end Query

end EntityCatalog
