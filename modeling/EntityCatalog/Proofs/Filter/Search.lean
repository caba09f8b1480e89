import EntityCatalog.Proofs.Field.Stored
import EntityCatalog.Proofs.Filter.Written
import EntityCatalog.Proofs.Query
import Mathlib

theorem List.mapM_eq_some_map {α β : Type} {l : List α} {g : α → Option β} {k : α → β}
    (h : ∀ a ∈ l, g a = some (k a)) : l.mapM g = some (l.map k) := by
  induction l
  case nil => rfl
  case cons a l hi =>
    obtain ⟨ha, hl⟩ := List.forall_mem_cons.mp h
    simp [ha, hi hl]

namespace EntityCatalog

theorem Text.joinWith_eq_intercalate (sep : Char) (parts : List (List Char)) :
    joinWith sep parts = [sep].intercalate parts := by
  induction parts
  case nil => rfl
  case cons part parts hi =>
    cases parts
    case nil => simp [joinWith]
    case cons =>
      rw [joinWith_cons (by simp), hi, List.intercalate_cons_cons, List.append_assoc]
      rfl

namespace Field

variable {f : Field} {fs : List Field} {p : Phrase}

-- The condition of a phrase on a field, as a search.
def asks (f : Field) (p : Phrase) : String := String.ofList (Fragment.text ⟨f.name.toList, p⟩)

theorem asks_led {operator : Operator} {t : String} :
    f.asks (.led operator t.toList) = f.name ++ ":" ++ operator.token ++ t := by
  rw [← String.toList_inj]
  simp [asks, Fragment.text, Phrase.text]

theorem asks_anyOf {ts : List String} :
    f.asks (.anyOf (ts.map String.toList)) = f.name ++ ":in[" ++ ",".intercalate ts ++ "]" := by
  rw [← String.toList_inj]
  simp [asks, Fragment.text, Phrase.text, Phrase.listText, Text.joinWith_eq_intercalate]

theorem asks_noneOf {ts : List String} :
    f.asks (.noneOf (ts.map String.toList)) = f.name ++ ":nin[" ++ ",".intercalate ts ++ "]" := by
  rw [← String.toList_inj]
  simp [asks, Fragment.text, Phrase.text, Phrase.listText, Text.joinWith_eq_intercalate]

theorem nameFlaw?_of_isAccepted (h : f.IsAccepted) : nameFlaw? f.name = none := by
  have hc := h.checked
  unfold checked at hc
  split at hc <;> try contradiction
  case h_2 hs => exact (Option.or_eq_none_iff.mp hs).1

theorem nameFlaw?_eq_none_iff {name : String} : nameFlaw? name = none ↔
    name ≠ "" ∧ name = name.stripped ∧ ∀ c ∈ name.toList, isReserved c = false := by
  unfold nameFlaw?
  split
  case isTrue h => exact iff_of_false nofun fun ⟨he, hs, _⟩ => h.elim he (absurd hs)
  case isFalse h =>
    obtain ⟨he, hs⟩ := not_or.mp h
    split
    case isTrue hr =>
      have ⟨c, hc, hr⟩ := List.any_eq_true.mp hr
      exact iff_of_false nofun fun ⟨_, _, hn⟩ => by simp [hn c hc] at hr
    case isFalse hr => exact iff_of_true rfl ⟨he, not_not.mp hs, by simpa using hr⟩

theorem IsAccepted.isClear (h : f.IsAccepted) (hp : p.IsClear) :
    Fragment.IsClear ⟨f.name.toList, p⟩ := by
  have ⟨he, hs, hr⟩ := nameFlaw?_eq_none_iff.mp (nameFlaw?_of_isAccepted h)
  have hs : f.name.toList = Text.strip f.name.toList := by
    simpa [String.stripped] using congrArg String.toList hs
  refine ⟨by simpa using he, fun hc => ?_, fun hc => ?_, ?_, hp⟩
  case refine_1 => exact absurd (hr _ hc) (by decide)
  case refine_2 => exact absurd (hr _ hc) (by decide)
  case refine_3 => exact Text.not_startsBlank_of_strip hs.symm

theorem find?_of_mem (hn : (fs.map (·.name)).Nodup) (hm : f ∈ fs) : find? fs f.name = some f := by
  refine (List.find?_eq_some_iff_of_unique ?_).mpr ⟨by simpa using hm, by simp⟩
  intro g hg g' hg' h h'
  have he : g.name = g'.name := (beq_iff_eq.mp h).trans (beq_iff_eq.mp h').symm
  exact List.inj_on_of_nodup_map hn (by simpa using hg) (by simpa using hg') he

end Field

@[simp] theorem Predicate.holds_all_singleton {d : Document} {q : Predicate} :
    (Predicate.all [q]).holds d = q.holds d := by
  simp [holds, holdsAll]

theorem Query.parseSearch_asks {fs : List Field} {f : Field} {t : FieldType} {p : Phrase}
    {q : Predicate} (hf : Field.AreAccepted fs) (hm : f ∈ fs) (ht : f.type = .known t)
    (hp : p.IsClear) (ha : t.allows (p.condition f.name).operator)
    (hq : (p.condition f.name).compile? f.type = some q) :
    parseSearch fs (f.asks p) = .ok (.all [q]) := by
  have hr : Condition.parseAll (f.asks p).toList = .ok [p.condition f.name] := by
    have hc : ∀ g ∈ [(⟨f.name.toList, p⟩ : Fragment)], g.IsClear := by
      simpa using (hf.accepted f hm).isClear hp
    simpa [Field.asks, Text.joinWith, Fragment.condition] using
      Condition.parseAll_text (by simp) hc
  have hn : (p.condition f.name).field = f.name := by cases p <;> rfl
  have hk : Condition.checkAll fs [p.condition f.name] = .ok () := by
    simp [Condition.checkAll, Condition.check, Condition.checkOperator, hn,
      Field.find?_of_mem hf.names hm, ht, ha]
  have hc : Condition.compileAll? fs [p.condition f.name] = some (.all [q]) := by
    simp [Condition.compileAll?, Condition.typeIn, hn, Field.find?_of_mem hf.names hm, hq]
  simp [parseSearch, hr, Failure.lift, bind, Except.bind, hk, hc]

def Operator.predicate? : Operator → Option (String → Value → Predicate)
  | .equals => some .equals
  | .notEquals => some .notEquals
  | .less => some (.compares .less)
  | .lessOrEqual => some (.compares .lessOrEqual)
  | .greater => some (.compares .greater)
  | .greaterOrEqual => some (.compares .greaterOrEqual)
  | _ => none

namespace Query

variable {fs : List Field} {f : Field} {type : FieldType} {ts : List String} {k : String → Value}
  (hf : Field.AreAccepted fs) (hm : f ∈ fs) (ht : f.type = .known type)
  (hx : type.isTextual = false)

include hf hm ht hx

theorem parseSearch_led {operator : Operator} {q : String → Value → Predicate} {t : String}
    {v : Value} (hq : operator.predicate? = some q) (ha : type.allows operator)
    (hv : Phrase.IsValue t.toList)
    (he : operator = .greater ∨ operator = .less → t.toList.head? ≠ some 'e')
    (hc : (Shape.value t.toList).canonical? = some v) :
    parseSearch fs (f.name ++ ":" ++ operator.token ++ t) = .ok (.all [q f.name v]) := by
  have ho : operator.isLeading := by cases operator <;> first | rfl | cases hq
  rw [← Field.asks_led]
  refine parseSearch_asks hf hm ht (.led ho hv he) ha ?_
  have hr : (Shape.value t.toList).retyped? f.type (some t) = some v := by
    rw [Value.retyped?, ht, DeclaredType.isTextual, hx, if_neg (by decide), hc]
  cases operator <;> cases hq <;> simp [Condition.compile?, Phrase.condition, Typed.text?, hr]

omit hf hm in
theorem mapM_listValues {operator : Operator}
    (hk : ∀ t ∈ ts, (Shape.value t.toList).canonical? = some (k t)) :
    ((Condition.ofTokens f.name operator (ts.map String.toList)).listValues.mapM
      fun (v, s) => v.retyped? f.type s) = some (ts.map k) := by
  have hv : (Condition.ofTokens f.name operator (ts.map String.toList)).listValues.map (·.1) =
      (ts.map String.toList).map Shape.value :=
    Condition.map_fst_withTokens
  have hr : ((Condition.ofTokens f.name operator (ts.map String.toList)).listValues.mapM
        fun (v, s) => v.retyped? f.type s) =
      ((Condition.ofTokens f.name operator (ts.map String.toList)).listValues.map (·.1)).mapM
        Value.canonical? := by
    simp [List.mapM_map, Value.retyped?, ht, DeclaredType.isTextual, hx, Function.comp_def]
  rw [hr, hv, List.map_map, List.mapM_map]
  refine List.mapM_eq_some_map fun t ht => ?_
  rw [Function.comp_apply, Function.comp_apply, hk t ht]

theorem parseSearch_anyOf (ha : type.allows .anyOf) (hn : ts ≠ [])
    (hts : ∀ t ∈ ts, Phrase.IsToken t.toList)
    (hk : ∀ t ∈ ts, (Shape.value t.toList).canonical? = some (k t)) :
    parseSearch fs (f.name ++ ":in[" ++ ",".intercalate ts ++ "]") =
      .ok (.all [.anyOf f.name (ts.map k)]) := by
  rw [← Field.asks_anyOf]
  refine parseSearch_asks hf hm ht (.anyOf (by simpa) (by simpa)) ha ?_
  exact congrArg (Option.map _) (mapM_listValues ht hx hk)

theorem parseSearch_noneOf (ha : type.allows .noneOf) (hn : ts ≠ [])
    (hts : ∀ t ∈ ts, Phrase.IsToken t.toList)
    (hk : ∀ t ∈ ts, (Shape.value t.toList).canonical? = some (k t)) :
    parseSearch fs (f.name ++ ":nin[" ++ ",".intercalate ts ++ "]") =
      .ok (.all [.noneOf f.name (ts.map k)]) := by
  rw [← Field.asks_noneOf]
  refine parseSearch_asks hf hm ht (.noneOf (by simpa) (by simpa)) ha ?_
  exact congrArg (Option.map _) (mapM_listValues ht hx hk)

end Query

end EntityCatalog
