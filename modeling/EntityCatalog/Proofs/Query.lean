import EntityCatalog.Proofs.Lookup
import EntityCatalog.Proofs.Store.Clause
import EntityCatalog.Proofs.Validation.Overflow
import EntityCatalog.Query
import EntityCatalog.Store.Tables

namespace EntityCatalog

def Predicate.IsTaken (p : Predicate) : Prop :=
  ∃ c, p.clause? = some c ∧ ∀ v ∈ c.values, v.bindFailure? = none

namespace Predicate

variable {path : String} {v w : Value} {vs : List Value} {ps : List Predicate}

theorem eq_of_mem_values_sameClause (h : w ∈ (sameClause path v).values) : w = v := by
  unfold sameClause at h
  split at h
  case h_1 => simp [Clause.values] at h
  case h_2 =>
    obtain ⟨c, hc, hw⟩ := Clause.mem_values_allOf h
    simp only [List.mem_cons, List.not_mem_nil, or_false] at hc
    rcases hc with rfl | rfl <;> simp [Clause.values] at hw
    exact hw

namespace IsTaken

theorem equals (hv : v.bindFailure? = none) : (equals path v).IsTaken :=
  ⟨_, rfl, fun _ hw => eq_of_mem_values_sameClause hw ▸ hv⟩

theorem anyOf (hv : ∀ v ∈ vs, v.bindFailure? = none) : (anyOf path vs).IsTaken := by
  refine ⟨_, rfl, fun w hw => ?_⟩
  have ⟨_, hc, hw⟩ := Clause.mem_values_anyOf hw
  have ⟨v, hm, hc⟩ := List.mem_map.mp hc
  exact eq_of_mem_values_sameClause (hc ▸ hw) ▸ hv v hm

theorem noneOf (hv : ∀ v ∈ vs, v.bindFailure? = none) : (noneOf path vs).IsTaken := by
  refine ⟨_, rfl, fun w hw => ?_⟩
  have ⟨c, hc, hw⟩ := Clause.mem_values_allOf hw
  rcases List.mem_cons.mp hc with rfl | hc
  case inl => simp [Clause.values] at hw
  case inr =>
    obtain ⟨v, hm, rfl⟩ := List.mem_map.mp hc
    rw [Clause.values] at hw
    exact eq_of_mem_values_sameClause hw ▸ hv v hm

theorem notEquals (hv : v.bindFailure? = none) : (notEquals path v).IsTaken := by
  have h : (Predicate.noneOf path [v]).IsTaken := noneOf (by simpa using hv)
  exact h

theorem contains {part : Part} : (contains part path v).IsTaken := by
  refine ⟨_, rfl, fun w hw => ?_⟩
  obtain ⟨c, hc, hw⟩ := Clause.mem_values_allOf hw
  simp only [List.mem_cons, List.not_mem_nil, or_false] at hc
  rcases hc with rfl | rfl <;> simp [Clause.values] at hw

theorem compares {order : Comparison} (hv : v.bindFailure? = none) :
    (compares order path v).IsTaken := by
  refine ⟨_, rfl, fun w hw => ?_⟩
  unfold orderClause at hw
  split at hw
  case isTrue => simp [Clause.values] at hw
  case isFalse =>
    obtain ⟨c, hc, hw⟩ := Clause.mem_values_allOf hw
    simp only [List.mem_cons, List.not_mem_nil, or_false] at hc
    rcases hc with rfl | rfl <;> simp [Clause.values] at hw
    exact hw ▸ hv

theorem absent : (absent path).IsTaken := ⟨_, rfl, by simp [Clause.values]⟩

theorem present : (present path).IsTaken := ⟨_, rfl, by simp [Clause.values]⟩

theorem all (h : ∀ p ∈ ps, p.IsTaken) : (all ps).IsTaken := by
  have hp : ∃ cs, clauses? ps = some cs ∧ ∀ c ∈ cs, ∀ v ∈ c.values, v.bindFailure? = none := by
    induction ps
    case nil => exact ⟨[], rfl, by simp⟩
    case cons p ps hi =>
      obtain ⟨⟨c, hc, hv⟩, h⟩ := List.forall_mem_cons.mp h
      obtain ⟨cs, hcs, hvs⟩ := hi h
      exact ⟨c :: cs, by simp [clauses?, hc, hcs], List.forall_mem_cons.mpr ⟨hv, hvs⟩⟩
  obtain ⟨cs, hc, hv⟩ := hp
  refine ⟨.allOf cs, by simp [clause?, hc], fun w hw => ?_⟩
  obtain ⟨c, hm, hw⟩ := Clause.mem_values_allOf hw
  exact hv c hm w hw

end IsTaken

theorem exists_clauseOf {filter : Option Predicate} (h : ∀ p ∈ filter, p.IsTaken) :
    ∃ c, Tables.clauseOf filter = .ok c := by
  cases filter
  case none => exact ⟨_, rfl⟩
  case some p =>
    have ⟨c, hc, hv⟩ := h p rfl
    have hb : c.values.findSome? Value.bindFailure? = none := List.findSome?_eq_none_iff.mpr hv
    exact ⟨c, by simp [Tables.clauseOf, hc, hb]⟩

end Predicate

def Value.IsTyped : Value → Prop
  | .int n => n.natAbs < Shape.exactBound
  | .null | .bool _ | .real _ | .moment _ | .text _ => True
  | _ => False

theorem Shape.isTyped_value {cs : List Char} : (Shape.value cs).IsTyped := by
  unfold Shape.value
  split
  case h_1 x _ =>
    unfold Shape.numberValue
    split
    case h_1 n _ => split <;> simp_all [Value.IsTyped]
    case h_2 => trivial
  case h_2 =>
    dsimp only
    split <;> [trivial; split] <;> [trivial; split] <;> trivial

namespace Value

variable {type : DeclaredType} {typed : Option String} {v w : Value}

theorem retyped?_eq_none_iff :
    v.retyped? type typed = none ↔
      type.isTextual = false ∧ ∃ m, v = .moment m ∧ m.canonical? = none := by
  unfold retyped?
  split
  case isTrue h => simp [h]
  case isFalse h => cases v <;> simp [canonical?, h]

theorem IsTyped.bindFailure?_retyped (hv : v.IsTyped) (h : v.retyped? type typed = some w) :
    w.bindFailure? = none := by
  have hi : ∀ n : Int, n.natAbs < Shape.exactBound → isWord n := by
    intro n hn
    have hb : Shape.exactBound = 9007199254740992 := by decide
    have hp : Int.pow 2 63 = 9223372036854775808 := by decide
    simp only [isWord, hp, Bool.and_eq_true, decide_eq_true_eq]
    omega
  have hb : ∀ u : Value, u.IsTyped → u.bindFailure? = none := by
    intro u hu
    cases u <;> simp_all [IsTyped, bindFailure?]
  unfold retyped? at h
  split at h
  case isTrue =>
    cases typed <;> cases h
    case none => exact hb _ hv
    case some => rfl
  case isFalse =>
    cases v <;> simp only [canonical?, Option.some.injEq, Option.map_eq_some_iff] at h
    case moment => obtain ⟨_, _, rfl⟩ := h; rfl
    case date => cases hv
    all_goals exact h ▸ hb _ hv

end Value

namespace Condition

variable {fragment : List Char} {c : Condition} {cs : List Condition} {type : DeclaredType}
  {fields : List Field} {p : Predicate}

-- The three ways in which a condition is written.
inductive IsRead : Condition → Prop
  | word {field cs operator value} :
    Operator.ofWord? cs = some (operator, value) → IsRead ⟨field, operator, value, .nothing⟩
  | several {field operator ts} :
    operator = .anyOf ∨ operator = .noneOf → IsRead (ofTokens field operator ts)
  | one {field operator cs} : operator ∈ Operator.leading → IsRead (ofText field operator cs)

theorem isRead_of_parse (h : parse fragment = .ok c) : c.IsRead := by
  unfold parse at h
  dsimp only at h
  split at h <;> cases h
  case h_4.refl =>
    unfold ofOperatorValue
    split
    case h_1 hw => exact .word hw
    case h_2 =>
      split
      case h_1 => exact .several (.inl rfl)
      case h_2 =>
        split
        case h_1 => exact .several (.inr rfl)
        case h_2 =>
          dsimp only
          split
          case h_1 hl =>
            have ⟨o, ho, ha⟩ := List.exists_of_findSome?_eq_some hl
            have ⟨_, _, he⟩ := Option.map_eq_some_iff.mp ha
            cases he
            exact .one ho
          case h_2 => exact .one (by decide)

def mentions (c : Condition) : List Value :=
  match c.value with
  | .list vs => vs
  | v => [v]

def IsBeyond (type : DeclaredType) (c : Condition) : Prop :=
  type.isTextual = false ∧ ∃ m, .moment m ∈ c.mentions ∧ m.canonical? = none

theorem map_fst_withTokens {vs : List Value} {ts : List String} :
    (withTokens vs ts).map (·.1) = vs := by
  induction vs, ts using withTokens.induct <;> simp_all [withTokens]

theorem mentions_of_typed (h : c.value.IsTyped) : c.mentions = [c.value] := by
  unfold mentions
  split
  case h_1 hv => rw [hv] at h; cases h
  case h_2 => rfl

theorem isBeyond_of_typed_iff (h : c.value.IsTyped) :
    c.IsBeyond type ↔ c.value.retyped? type c.typed.text? = none := by
  rw [Value.retyped?_eq_none_iff, IsBeyond, mentions_of_typed h]
  simp only [List.mem_singleton, @eq_comm _ (Value.moment _)]

theorem mentions_ofTokens {field : String} {operator : Operator} {ts : List (List Char)} :
    (ofTokens field operator ts).mentions =
      (ofTokens field operator ts).listValues.map (·.1) :=
  map_fst_withTokens.symm

theorem isBeyond_ofTokens_iff {field : String} {operator : Operator} {ts : List (List Char)} :
    (ofTokens field operator ts).IsBeyond type ↔
      (ofTokens field operator ts).listValues.mapM (fun (v, t) => v.retyped? type t) = none := by
  rw [List.mapM_eq_none_iff, IsBeyond, mentions_ofTokens]
  simp only [Value.retyped?_eq_none_iff, List.mem_map]
  constructor
  case mp => exact fun ⟨ht, m, ⟨x, hx, he⟩, hm⟩ => ⟨x, hx, ht, m, he, hm⟩
  case mpr => exact fun ⟨x, hx, ht, m, he, hm⟩ => ⟨ht, m, ⟨x, hx, he⟩, hm⟩

-- There is no predicate only of a condition that asks for what no stored date can be.
theorem IsRead.compile?_eq_none_iff (h : c.IsRead) :
    c.compile? type = none ↔ c.IsBeyond type := by
  cases h
  case word hw =>
    unfold Operator.ofWord? at hw
    repeat' split at hw
    all_goals cases hw
    all_goals simp [compile?, IsBeyond, mentions]
  case several ho =>
    rw [isBeyond_ofTokens_iff]
    rcases ho with rfl | rfl <;> simp [compile?, ofTokens]
  case one ho =>
    rw [isBeyond_of_typed_iff Shape.isTyped_value]
    simp only [Operator.leading, List.mem_cons, List.not_mem_nil, or_false] at ho
    rcases ho with rfl | rfl | rfl | rfl | rfl | rfl | rfl | rfl | rfl <;>
      simp [compile?, ofText]

theorem IsRead.isTaken (h : c.IsRead) (hp : c.compile? type = some p) : p.IsTaken := by
  cases h
  case word hw =>
    unfold Operator.ofWord? at hw
    repeat' split at hw
    all_goals cases hw
    all_goals cases hp
    · exact .equals rfl
    · exact .equals rfl
    · exact .absent
    · exact .present
  case several field operator ts ho =>
    have hv : ∀ vs,
        (ofTokens field operator ts).listValues.mapM (fun (v, t) => v.retyped? type t) = some vs →
          ∀ w ∈ vs, w.bindFailure? = none := by
      intro vs hvs w hw
      have ⟨x, hx, hr⟩ := List.exists_mem_of_mapM_eq_some hvs hw
      have hv : (ofTokens field operator ts).listValues.map (·.1) = ts.map Shape.value :=
        map_fst_withTokens
      have hm : x.1 ∈ ts.map Shape.value := hv ▸ List.mem_map_of_mem hx
      have ⟨t, _, ht⟩ := List.mem_map.mp hm
      exact (ht ▸ Shape.isTyped_value).bindFailure?_retyped hr
    rcases ho with rfl | rfl <;> simp only [compile?, ofTokens, Option.map_eq_some_iff] at hp
    · obtain ⟨vs, hvs, rfl⟩ := hp
      exact .anyOf (hv vs hvs)
    · obtain ⟨vs, hvs, rfl⟩ := hp
      exact .noneOf (hv vs hvs)
  case one cs ho =>
    have hv : ∀ w, (Shape.value cs).retyped? type (some (String.ofList cs)) = some w →
        w.bindFailure? = none := fun w hw => Shape.isTyped_value.bindFailure?_retyped hw
    simp only [Operator.leading, List.mem_cons, List.not_mem_nil, or_false] at ho
    rcases ho with rfl | rfl | rfl | rfl | rfl | rfl | rfl | rfl | rfl <;>
      simp only [compile?, ofText, Typed.text?, Option.map_eq_some_iff] at hp <;>
      obtain ⟨w, hw, rfl⟩ := hp
    · exact .compares (hv w hw)
    · exact .compares (hv w hw)
    · exact .contains
    · exact .contains
    · exact .notEquals (hv w hw)
    · exact .contains
    · exact .compares (hv w hw)
    · exact .compares (hv w hw)
    · exact .equals (hv w hw)

theorem isRead_of_parseAll {search : List Char} (h : parseAll search = .ok cs) :
    ∀ c ∈ cs, c.IsRead := by
  intro c hc
  unfold parseAll at h
  split at h
  case isTrue => cases h; cases hc
  case isFalse =>
    have ⟨_, _, hp⟩ := (List.mem_mapM_iff h).mp hc
    exact isRead_of_parse hp

theorem compileAll?_eq_none_iff (h : ∀ c ∈ cs, c.IsRead) :
    compileAll? fields cs = none ↔ ∃ c ∈ cs, c.IsBeyond (c.typeIn fields) := by
  have hc : (cs.mapM fun c : Condition => c.compile? (c.typeIn fields)) = none ↔
      ∃ c ∈ cs, c.IsBeyond (c.typeIn fields) := by
    rw [List.mapM_eq_none_iff]
    exact exists_congr fun c => and_congr_right fun hc => (h c hc).compile?_eq_none_iff
  rw [← hc]
  unfold compileAll?
  split
  case h_1 => simp
  case h_2 => rw [Option.map_eq_none_iff]

theorem isTaken_of_compileAll? (h : ∀ c ∈ cs, c.IsRead) (hp : compileAll? fields cs = some p) :
    p.IsTaken := by
  unfold compileAll? at hp
  split at hp
  case h_1 => cases hp; exact ⟨_, rfl, by simp [Clause.values]⟩
  case h_2 =>
    obtain ⟨ps, hps, rfl⟩ := Option.map_eq_some_iff.mp hp
    refine .all fun p hp => ?_
    have ⟨c, hc, hp⟩ := List.exists_mem_of_mapM_eq_some hps hp
    exact (h c hc).isTaken hp

end Condition

theorem Failure.isRejection_of_lift {α : Type} {r : Except CatalogError α} {f : Failure}
    (h : lift r = .error f) : f.IsRejection := by
  cases r <;> cases h
  exact isRejection_rejected

namespace Query

variable {fields : List Field} {limits : PageLimits} {asked : QueryText} {q : Query}
  {search : String} {p : Predicate} {f : Failure}

-- A search of a request with a moment that has no canonical text.
def AsksBeyond (fields : List Field) (asked : QueryText) : Prop :=
  ∃ search cs, given? asked.search = some search ∧
    Condition.parseAll search.toList = .ok cs ∧ Condition.checkAll fields cs = .ok () ∧
    ∃ c ∈ cs, c.IsBeyond (c.typeIn fields)

theorem parseSearch_overflow_iff :
    (∃ f, parseSearch fields search = .error f ∧ ¬f.IsRejection) ↔
      ∃ cs, Condition.parseAll search.toList = .ok cs ∧ Condition.checkAll fields cs = .ok () ∧
        ∃ c ∈ cs, c.IsBeyond (c.typeIn fields) := by
  unfold parseSearch
  cases hc : Condition.parseAll search.toList
  case error => simp [Failure.lift, bind, Except.bind]
  case ok cs =>
    have hi : Condition.compileAll? fields cs = none ↔ _ :=
      Condition.compileAll?_eq_none_iff (Condition.isRead_of_parseAll hc)
    cases hk : Condition.checkAll fields cs
    case error => simp [Failure.lift, bind, Except.bind, hk]
    case ok =>
      simp only [Failure.lift, bind, Except.bind, hk, Except.ok.injEq, exists_eq_left', true_and,
        ← hi]
      cases Condition.compileAll? fields cs <;> simp

theorem isTaken_of_parseSearch (h : parseSearch fields search = .ok p) : p.IsTaken := by
  unfold parseSearch at h
  cases hc : Condition.parseAll search.toList <;>
    simp only [hc, Failure.lift, bind, Except.bind, reduceCtorEq] at h
  case ok cs =>
    cases hk : Condition.checkAll fields cs <;> simp only [hk, reduceCtorEq] at h
    case ok =>
      split at h <;> cases h
      case h_1.refl hp =>
        exact Condition.isTaken_of_compileAll? (Condition.isRead_of_parseAll hc) hp

theorem mapM_parseSearch_eq (fields : List Field) (asked : QueryText) :
    AsksBeyond fields asked ∧ (∃ f, ¬f.IsRejection ∧
        (given? asked.search).mapM (parseSearch fields) = .error f) ∨
      ¬AsksBeyond fields asked ∧
        ((∃ f, f.IsRejection ∧ (given? asked.search).mapM (parseSearch fields) = .error f) ∨
          ∃ filter, (given? asked.search).mapM (parseSearch fields) = .ok filter ∧
            ∀ p ∈ filter, p.IsTaken) := by
  unfold AsksBeyond
  cases given? asked.search
  case none => exact .inr ⟨by simp, .inr ⟨none, rfl, nofun⟩⟩
  case some search =>
    simp only [Option.some.injEq, exists_and_left, exists_eq_left', ← parseSearch_overflow_iff]
    have hs : (some search).mapM (parseSearch fields) = (parseSearch fields search).map some := by
      change (parseSearch fields search).bind (fun p => .ok (some p)) = _
      cases parseSearch fields search <;> rfl
    cases hp : parseSearch fields search
    case ok p =>
      have hm : (some search).mapM (parseSearch fields) = .ok (some p) := by rw [hs, hp]; rfl
      exact .inr ⟨by simp, .inr ⟨some p, hm, by simpa using isTaken_of_parseSearch hp⟩⟩
    case error f =>
      have hm : (some search).mapM (parseSearch fields) = .error f := by rw [hs, hp]; rfl
      by_cases hf : f.IsRejection
      case pos => exact .inr ⟨by simp [hf], .inl ⟨f, hf, hm⟩⟩
      case neg => exact .inl ⟨⟨f, rfl, hf⟩, f, hf, hm⟩

-- A query is read, or refused, or it asks for a moment without a canonical text.
theorem parse_eq (fields : List Field) (limits : PageLimits) (asked : QueryText) :
    AsksBeyond fields asked ∧ (∃ f, ¬f.IsRejection ∧ parse fields limits asked = .error f) ∨
      ¬AsksBeyond fields asked ∧
        ((∃ f, f.IsRejection ∧ parse fields limits asked = .error f) ∨
          ∃ q, parse fields limits asked = .ok q ∧ ∀ p ∈ q.filter, p.IsTaken) := by
  unfold parse
  rcases mapM_parseSearch_eq fields asked with
    ⟨ha, f, hf, hm⟩ | ⟨ha, ⟨f, hf, hm⟩ | ⟨filter, hm, ht⟩⟩
  case inl => exact .inl ⟨ha, f, hf, by simp only [hm, bind, Except.bind]⟩
  case inr.inl => exact .inr ⟨ha, .inl ⟨f, hf, by simp only [hm, bind, Except.bind]⟩⟩
  case inr.inr =>
    refine .inr ⟨ha, ?_⟩
    simp only [hm, bind, Except.bind]
    cases hs : Failure.lift ((given? asked.sort).mapM (SortKey.parse fields))
    case error => exact .inl ⟨_, Failure.isRejection_of_lift hs, rfl⟩
    case ok sort =>
      cases asked.select
      case none => exact .inr ⟨_, rfl, ht⟩
      case some text =>
        dsimp only
        split
        case isTrue => exact .inr ⟨_, rfl, ht⟩
        case isFalse =>
          cases hl : Failure.lift (parseSelect fields text)
          case error => exact .inl ⟨_, Failure.isRejection_of_lift hl, rfl⟩
          case ok => exact .inr ⟨_, rfl, ht⟩

theorem isTaken_of_parse (h : parse fields limits asked = .ok q) : ∀ p ∈ q.filter, p.IsTaken := by
  rcases parse_eq fields limits asked with ⟨_, f, _, hp⟩ | ⟨_, ⟨f, _, hp⟩ | ⟨r, hp, ht⟩⟩
  case inl => cases hp.symm.trans h
  case inr.inl => cases hp.symm.trans h
  case inr.inr =>
    cases hp.symm.trans h
    exact ht

end Query

end EntityCatalog
