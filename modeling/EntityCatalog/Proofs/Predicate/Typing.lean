import EntityCatalog.Proofs.Filter.Stages
import EntityCatalog.Proofs.Filter.Texts
import Mathlib

namespace EntityCatalog

namespace Phrase

inductive IsSaidIn : List Char → Phrase → Prop
  | isTrue : IsSaidIn isTrue.text isTrue
  | isFalse : IsSaidIn isFalse.text isFalse
  | isNull : IsSaidIn isNull.text isNull
  | isNotNull : IsSaidIn isNotNull.text isNotNull
  | anyOf {inner} :
    IsSaidIn ("in[".toList ++ inner ++ [']']) (anyOf ((Text.splitOn ',' inner).map Text.strip))
  | noneOf {inner} :
    IsSaidIn ("nin[".toList ++ inner ++ [']']) (noneOf ((Text.splitOn ',' inner).map Text.strip))
  | led {operator value} :
    operator.isLeading →
    (operator = .greater ∨ operator = .less → value.head? ≠ some 'e') →
    IsSaidIn (operator.token.toList ++ value) (led operator value)
  | bare {value} :
    value ∉ ["true".toList, "false".toList, "null".toList, "notnull".toList] →
    (∀ opening ∈ ["in[".toList, "nin[".toList], opening <+: value → value.getLast? ≠ some ']') →
    (∀ operator : Operator, operator.isLeading → ¬operator.token.toList <+: value) →
    IsSaidIn value (bare value)

variable {cs : List Char} {field : String} {operator : Operator} {rest : List Char}

theorem eq_of_tokens? {opening : List Char} {ts : List (List Char)} (ho : ']' ∉ opening)
    (h : Condition.tokens? opening cs = some ts) :
    ∃ inner, cs = opening ++ inner ++ [']'] ∧ ts = (Text.splitOn ',' inner).map Text.strip := by
  unfold Condition.tokens? at h
  split at h
  case isFalse => cases h
  case isTrue hl =>
    obtain ⟨rest, ha, rfl⟩ := Option.map_eq_some_iff.mp h
    obtain rfl := Text.eq_append_of_after? ha
    rcases List.eq_nil_or_concat rest with rfl | ⟨inner, c, rfl⟩
    case inl => exact absurd (List.mem_of_getLast? (by simpa using hl)) ho
    case inr =>
      obtain rfl : c = ']' := by simpa using hl
      exact ⟨inner, by simp, by simp⟩

theorem not_prefix_of_tokens?_eq_none {opening : List Char}
    (h : Condition.tokens? opening cs = none) : opening <+: cs → cs.getLast? ≠ some ']' := by
  intro hp hl
  unfold Condition.tokens? at h
  rw [if_pos hl, Option.map_eq_none_iff, Text.after?_eq_none_iff] at h
  exact h hp

theorem isLeading_of_mem (h : operator ∈ Operator.leading) : operator.isLeading := by
  cases operator <;> first | rfl | simp [Operator.leading] at h

theorem mem_leading (h : operator.isLeading) : operator ∈ Operator.leading := by
  cases operator <;> simp [Operator.isLeading, Operator.leading] at h ⊢

theorem isSaidIn_of_lead? (h : lead? cs = some (operator, rest)) :
    IsSaidIn cs (led operator rest) := by
  have ⟨o, ho, ha⟩ := List.exists_of_findSome?_eq_some h
  obtain ⟨r, ha, he⟩ := Option.map_eq_some_iff.mp ha
  cases he
  obtain rfl := Text.eq_append_of_after? ha
  refine .led (isLeading_of_mem ho) fun hg he => ?_
  obtain ⟨tail, rfl⟩ : ∃ tail, rest = 'e' :: tail := List.head?_eq_some_iff.mp he
  rcases hg with rfl | rfl
  case inl =>
    have hl := @lead?_led tail .greaterOrEqual rfl (by simp)
    cases hl.symm.trans h
  case inr =>
    have hl := @lead?_led tail .lessOrEqual rfl (by simp)
    cases hl.symm.trans h

theorem exists_isSaidIn (cs : List Char) :
    ∃ p, IsSaidIn cs p ∧ ∀ field, Condition.ofOperatorValue field cs = p.condition field := by
  by_cases hm : cs ∈ ["true".toList, "false".toList, "null".toList, "notnull".toList]
  case pos =>
    simp only [List.mem_cons, List.not_mem_nil, or_false] at hm
    rcases hm with rfl | rfl | rfl | rfl
    · exact ⟨_, .isTrue, fun _ => rfl⟩
    · exact ⟨_, .isFalse, fun _ => rfl⟩
    · exact ⟨_, .isNull, fun _ => rfl⟩
    · exact ⟨_, .isNotNull, fun _ => rfl⟩
  case neg =>
    have hw : Operator.ofWord? cs = none := by
      simp only [List.mem_cons, List.not_mem_nil, or_false, not_or] at hm
      simp only [Operator.ofWord?, if_neg hm.1, if_neg hm.2.1, if_neg hm.2.2.1, if_neg hm.2.2.2]
    cases hi : Condition.tokens? "in[".toList cs
    case some ts =>
      obtain ⟨inner, rfl, rfl⟩ := eq_of_tokens? (by decide) hi
      exact ⟨_, .anyOf, fun _ => by simp only [Condition.ofOperatorValue, hw, hi]; rfl⟩
    case none =>
      cases hn : Condition.tokens? "nin[".toList cs
      case some ts =>
        obtain ⟨inner, rfl, rfl⟩ := eq_of_tokens? (by decide) hn
        exact ⟨_, .noneOf, fun _ => by simp only [Condition.ofOperatorValue, hw, hi, hn]; rfl⟩
      case none =>
        cases hl : lead? cs
        case some lead =>
          refine ⟨_, isSaidIn_of_lead? hl, fun _ => ?_⟩
          unfold lead? at hl
          simp only [Condition.ofOperatorValue, hw, hi, hn, hl]
          rfl
        case none =>
          unfold lead? at hl
          refine ⟨_, .bare hm ?_ fun o ho hp => ?_, fun _ => ?_⟩
          case refine_1 =>
            simp only [List.forall_mem_cons, List.not_mem_nil, false_imp_iff, implies_true,
              and_true]
            exact ⟨not_prefix_of_tokens?_eq_none hi, not_prefix_of_tokens?_eq_none hn⟩
          case refine_2 =>
            simp only [List.findSome?_eq_none_iff, Option.map_eq_none_iff,
              Text.after?_eq_none_iff] at hl
            exact hl o (mem_leading ho) hp
          case refine_3 =>
            simp only [Condition.ofOperatorValue, hw, hi, hn, hl]
            rfl

end Phrase

namespace Value

variable {type : FieldType} {typed : List Char} {v : Value}

inductive IsShapeOf (typed : List Char) : Value → Prop
  | int {n} : n.natAbs < Nat.pow 2 53 → IsShapeOf typed (.int n)
  | real {x} : x.isFinite → IsShapeOf typed (.real x)
  | bool {b} : IsShapeOf typed (.bool b)
  | moment {m} : IsShapeOf typed (.moment m)
  | text : IsShapeOf typed (.text (String.ofList typed))

theorem isFinite_of_number? {x : Binary64} (h : Shape.number? typed = some x) : x.isFinite := by
  unfold Shape.number? at h
  obtain ⟨_, _, h⟩ := Option.bind_eq_some_iff.mp h
  obtain ⟨hf, he⟩ := Option.ite_none_right_eq_some.mp h
  cases he
  exact hf

theorem isShapeOf_value : (Shape.value typed).IsShapeOf typed := by
  unfold Shape.value
  split
  case h_1 x hx =>
    unfold Shape.numberValue
    split
    case h_1 n _ =>
      split
      case isTrue hn => exact .int hn
      case isFalse => exact .real (isFinite_of_number? hx)
    case h_2 => exact .real (isFinite_of_number? hx)
  case h_2 =>
    dsimp only
    split
    case isTrue => exact .bool
    case isFalse =>
      split
      case isTrue => exact .bool
      case isFalse => split <;> [exact .moment; exact .text]

-- A typed value as a field of a type has it: fields of text have what was typed.
inductive Suits (type : FieldType) (typed : List Char) : Value → Prop
  | typed : type.isTextual → Suits type typed (.text (String.ofList typed))
  | text {s} : ¬type.isTextual → Suits type typed (.text s)
  | bool {b} : ¬type.isTextual → Suits type typed (.bool b)
  | int {n} : ¬type.isTextual → n.natAbs < Nat.pow 2 53 → Suits type typed (.int n)
  | real {x} : ¬type.isTextual → x.isFinite → Suits type typed (.real x)

theorem suits_of_retyped?
    (h : (Shape.value typed).retyped? (.known type) (some (String.ofList typed)) = some v) :
    v.Suits type typed := by
  unfold retyped? at h
  split at h
  case isTrue ht =>
    cases h
    exact .typed ht
  case isFalse ht =>
    have hs := @isShapeOf_value typed
    generalize Shape.value typed = w at h hs
    cases hs
    case int hn => cases h; exact .int ht hn
    case real hx => cases h; exact .real ht hx
    case bool => cases h; exact .bool ht
    case moment =>
      obtain ⟨_, _, rfl⟩ := Option.map_eq_some_iff.mp h
      exact .text ht
    case text => cases h; exact .text ht

end Value

def Part.operator : Part → Operator
  | .anywhere => .contains
  | .start => .startsWith
  | .end => .endsWith

def Comparison.operator : Comparison → Operator
  | .less => .less
  | .lessOrEqual => .lessOrEqual
  | .greater => .greater
  | .greaterOrEqual => .greaterOrEqual

namespace Phrase

-- The clauses that a phrase can come to on a field of a type.
inductive Asks (type : FieldType) (path : String) : Phrase → Predicate → Prop
  | isTrue :
    type = .boolean →
    Asks type path isTrue (.equals path (.bool true))
  | isFalse :
    type = .boolean →
    Asks type path isFalse (.equals path (.bool false))
  | isNull : Asks type path isNull (.absent path)
  | isNotNull : Asks type path isNotNull (.present path)
  | anyOf {tokens vs} :
    type ≠ .boolean →
    List.Forall₂ (fun typed v => v.Suits type typed) tokens vs →
    Asks type path (anyOf tokens) (.anyOf path vs)
  | noneOf {tokens vs} :
    type ≠ .boolean →
    List.Forall₂ (fun typed v => v.Suits type typed) tokens vs →
    Asks type path (noneOf tokens) (.noneOf path vs)
  | bare {typed v} :
    v.Suits type typed →
    Asks type path (bare typed) (.equals path v)
  | equals {typed v} :
    v.Suits type typed →
    Asks type path (led .equals typed) (.equals path v)
  | notEquals {typed v} :
    v.Suits type typed →
    Asks type path (led .notEquals typed) (.notEquals path v)
  | contains {part typed v} :
    type.isTextual →
    v.Suits type typed →
    Asks type path (led part.operator typed) (.contains part path v)
  | compares {order typed v} :
    type = .number ∨ type = .date →
    v.Suits type typed →
    Asks type path (led order.operator typed) (.compares order path v)

variable {type : FieldType} {path : String} {phrase : Phrase} {p : Predicate} {cs : List Char}

theorem suits_of_listValues {o : Operator} {tokens : List (List Char)} {vs : List Value}
    (h : (Condition.ofTokens path o tokens).listValues.mapM
      (fun (v, t) => v.retyped? (.known type) t) = some vs) :
    List.Forall₂ (fun t v => v.Suits type t) tokens vs := by
  have hl : (Condition.ofTokens path o tokens).listValues =
      tokens.map fun t => (Shape.value t, some (String.ofList t)) :=
    Condition.withTokens_map
  rw [hl, List.mapM_map, List.mapM_eq_some_iff_forall₂] at h
  exact h.imp fun _ _ => Value.suits_of_retyped?

theorem asks_of_compile? (hs : IsSaidIn cs phrase)
    (ha : type.allows (phrase.condition path).operator)
    (h : (phrase.condition path).compile? (.known type) = some p) : phrase.Asks type path p := by
  cases hs
  case isTrue => cases h; exact .isTrue (by simpa [condition, FieldType.allows] using ha)
  case isFalse => cases h; exact .isFalse (by simpa [condition, FieldType.allows] using ha)
  case isNull => cases h; exact .isNull
  case isNotNull => cases h; exact .isNotNull
  case anyOf =>
    obtain ⟨vs, hv, rfl⟩ := Option.map_eq_some_iff.mp h
    exact .anyOf (by simpa [condition, FieldType.allows] using ha) (suits_of_listValues hv)
  case noneOf =>
    obtain ⟨vs, hv, rfl⟩ := Option.map_eq_some_iff.mp h
    exact .noneOf (by simpa [condition, FieldType.allows] using ha) (suits_of_listValues hv)
  case bare =>
    obtain ⟨v, hv, rfl⟩ := Option.map_eq_some_iff.mp h
    exact .bare (Value.suits_of_retyped? hv)
  case led o typed ho _ =>
    cases o
    case anyOf | noneOf | isTrue | isFalse | isNull | isNotNull => cases ho
    all_goals
      obtain ⟨v, hv, rfl⟩ := Option.map_eq_some_iff.mp h
      have hv := Value.suits_of_retyped? hv
    case equals => exact .equals hv
    case notEquals => exact .notEquals hv
    case contains => exact @Asks.contains _ _ .anywhere _ _ ha hv
    case startsWith => exact @Asks.contains _ _ .start _ _ ha hv
    case endsWith => exact @Asks.contains _ _ .end _ _ ha hv
    all_goals
      have ht : type = .number ∨ type = .date := by
        simpa [condition, FieldType.allows] using ha
    case less => exact @Asks.compares _ _ .less _ _ ht hv
    case lessOrEqual => exact @Asks.compares _ _ .lessOrEqual _ _ ht hv
    case greater => exact @Asks.compares _ _ .greater _ _ ht hv
    case greaterOrEqual => exact @Asks.compares _ _ .greaterOrEqual _ _ ht hv

end Phrase

namespace Predicate

mutual

def leaves : Predicate → List Predicate
  | .always => []
  | .all ps | .any ps => leavesOfAll ps
  | p => [p]

def leavesOfAll : List Predicate → List Predicate
  | [] => []
  | p :: ps => p.leaves ++ leavesOfAll ps

end

variable {p : Predicate} {ps : List Predicate} {path : String}

theorem leaves_of_path? (h : p.path? = some path) : p.leaves = [p] := by
  cases p <;> first | rfl | cases h

theorem leavesOfAll_of_path? (h : ∀ p ∈ ps, ∃ path, p.path? = some path) : leavesOfAll ps = ps := by
  induction ps
  case nil => rfl
  case cons p ps hi =>
    obtain ⟨⟨_, hp⟩, h⟩ := List.forall_mem_cons.mp h
    rw [leavesOfAll, leaves_of_path? hp, hi h]
    rfl

end Predicate

theorem Condition.typeIn_of_mem {fields : List Field} {f : Field} {c : Condition}
    (hf : Field.AreAccepted fields) (hm : f ∈ fields) (hn : f.name = c.field) :
    c.typeIn fields = f.type := by
  rw [typeIn, ← hn, Field.find?_of_mem hf.names hm]

namespace Query

variable {fields : List Field} {limits : PageLimits} {asked : QueryText} {q : Query}
  {search : String} {p leaf : Predicate}

theorem exists_asks_of_comesTo (hf : Field.AreAccepted fields)
    (h : ComesTo fields search.toList (.ok (some p))) (hl : leaf ∈ p.leaves) :
    ∃ f ∈ fields, ∃ type cs phrase, f.type = .known type ∧
      f.name.toList ++ ':' :: cs ∈ Condition.fragments search.toList ∧
      Phrase.IsSaidIn cs phrase ∧ phrase.Asks type f.name leaf := by
  cases h
  case blank => cases hl
  case clauses cs ps _ hr hw hp =>
    have ha : ∀ p ∈ ps, ∃ path, p.path? = some path := fun p hm =>
      have ⟨_, _, hc⟩ := hp.flip.exists_of_mem hm
      ⟨_, hc.2⟩
    rw [Predicate.leaves, Predicate.leavesOfAll_of_path? ha] at hl
    obtain ⟨c, hc, ⟨hl, _⟩⟩ := hp.flip.exists_of_mem hl
    obtain ⟨fragment, hm, hr⟩ := hr.flip.exists_of_mem hc
    obtain ⟨f, hd, type, hn, ht, ha⟩ := hw c hc
    obtain @⟨field, rest, _, _, _, _, rfl, hc⟩ := hr
    obtain ⟨phrase, hs, he⟩ := Phrase.exists_isSaidIn rest
    rw [Condition.typeIn_of_mem hf hd hn, ht, he] at hl
    rw [he] at ha
    have hn : f.name = String.ofList field := hn.trans hc
    refine ⟨f, hd, type, rest, phrase, ht, ?_, hs, ?_⟩
    case refine_1 => rwa [hn, String.toList_ofList]
    case refine_2 => exact hn ▸ Phrase.asks_of_compile? hs ha hl

theorem bindFailure?_of_clauseOf {filter : Option Predicate} {clause : Clause}
    (h : Tables.clauseOf filter = .ok clause) : ∀ v ∈ clause.values, v.bindFailure? = none := by
  unfold Tables.clauseOf at h
  repeat' split at h
  all_goals cases h
  case h_1.refl => exact nofun
  case h_2.refl hb => exact List.findSome?_eq_none_iff.mp hb

-- Each clause of a query that is read is about a declared field, and is one that a condition of the
-- search can come to on a field of its type; the store takes them all, and no integer among their
-- values is out of its range.
theorem parse_isTyped {sources : List Field.Source} (hs : ∀ s ∈ sources, s.IsSound)
    (hr : Field.readSources sources = .ok fields) (h : parse fields limits asked = .ok q) :
    (∀ p ∈ q.filter, ∀ leaf ∈ p.leaves, ∃ search, asked.search = some search ∧
      ∃ f ∈ fields, ∃ type cs phrase, f.type = .known type ∧
        f.name.toList ++ ':' :: cs ∈ Condition.fragments search.toList ∧
        Phrase.IsSaidIn cs phrase ∧ phrase.Asks type f.name leaf) ∧
    ∃ clause, Tables.clauseOf q.filter = .ok clause ∧
      ∀ n : Int, .int n ∈ clause.values → -2 ^ 63 ≤ n ∧ n < 2 ^ 63 := by
  have hf := Field.AreAccepted.of_readSources hs hr
  constructor
  case left =>
    intro p hp leaf hl
    have hq := search_of_parse h
    rw [Option.mem_def.mp hp] at hq
    cases ha : asked.search
    case none => cases ha ▸ hq
    case some search =>
      exact ⟨search, rfl, exists_asks_of_comesTo hf ((comesTo_iff hf).mpr (ha ▸ hq).symm) hl⟩
  case right =>
    obtain ⟨clause, hc⟩ := Predicate.exists_clauseOf (isTaken_of_parse h)
    refine ⟨clause, hc, fun n hn => ?_⟩
    have hw : isWord n := by simpa [Value.bindFailure?] using bindFailure?_of_clauseOf hc _ hn
    simpa [isWord] using hw

def wares : List Field :=
  [{ name := "code", type := .known .string }, { name := "size", type := .known .number },
    { name := "sold", type := .known .boolean }]

theorem parse_isTyped_wares :
    ∃ q p, parse wares {} { search := some "code:in[7, TRUE];size:gte2.5;sold:true" } = .ok q ∧
      q.filter = some p ∧ p.leaves.length = 3 ∧
      (∀ leaf ∈ p.leaves, ∃ f ∈ wares, ∃ type phrase, f.type = .known type ∧
        Phrase.Asks type f.name phrase leaf) ∧
      ∃ clause, Tables.clauseOf q.filter = .ok clause := by
  have hs : ∀ s ∈ [Field.Source.document (.object [("name", .text "code"),
        ("type", .text "string")]),
      .document (.object [("name", .text "size"), ("type", .text "number")]),
      .document (.object [("name", .text "sold"), ("type", .text "boolean")])], s.IsSound := by
    simp [Field.Source.IsSound]
  have hr : Field.readSources [.document (.object [("name", .text "code"),
        ("type", .text "string")]),
      .document (.object [("name", .text "size"), ("type", .text "number")]),
      .document (.object [("name", .text "sold"), ("type", .text "boolean")])] = .ok wares := rfl
  have hl : ((parse wares {} { search := some "code:in[7, TRUE];size:gte2.5;sold:true" }).toOption
      |>.bind (·.filter)).map (·.leaves.length) = some 3 := by
    decide +kernel
  obtain ⟨p, hp, hn⟩ := Option.map_eq_some_iff.mp hl
  obtain ⟨q, hq, hp⟩ := Option.bind_eq_some_iff.mp hp
  have hq := Except.toOption_eq_some_iff.mp hq
  obtain ⟨ht, clause, hc, _⟩ := parse_isTyped hs hr hq
  refine ⟨q, p, hq, hp, hn, fun leaf hl => ?_, clause, hc⟩
  obtain ⟨_, _, f, hm, type, _, phrase, hk, _, _, ha⟩ := ht p hp leaf hl
  exact ⟨f, hm, type, phrase, hk, ha⟩

end Query

end EntityCatalog
