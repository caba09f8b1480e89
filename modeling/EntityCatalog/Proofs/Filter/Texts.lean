import EntityCatalog.Proofs.Filter.Search
import EntityCatalog.Proofs.Store.Cell
import EntityCatalog.Proofs.Store.Like
import Mathlib

namespace EntityCatalog

def Operator.textPredicate? : Operator → Option (String → Value → Predicate)
  | .equals => some .equals
  | .notEquals => some .notEquals
  | .contains => some (.contains .anywhere)
  | .startsWith => some (.contains .start)
  | .endsWith => some (.contains .end)
  | _ => none

namespace Condition

variable {type : DeclaredType} {operator : Operator} {q : String → Value → Predicate}
  {field t : String} {ts : List String}

theorem compile?_led_of_textual (ht : type.isTextual) (hq : operator.textPredicate? = some q) :
    ((Phrase.led operator t.toList).condition field).compile? type = some (q field (.text t)) := by
  cases operator <;> cases hq <;>
    simp [compile?, Phrase.condition, Typed.text?, Value.retyped?, ht]

theorem withTokens_map {α : Type} {value : α → Value} {token : α → String} {l : List α} :
    withTokens (l.map value) (l.map token) = l.map fun a => (value a, some (token a)) := by
  induction l
  case nil => rfl
  case cons a l hi => rw [List.map_cons, List.map_cons, withTokens, hi, List.map_cons]

theorem mapM_listValues_of_textual (ht : type.isTextual) :
    ((ofTokens field operator (ts.map String.toList)).listValues.mapM
      fun (v, s) => v.retyped? type s) = some (ts.map .text) := by
  have hl : (ofTokens field operator (ts.map String.toList)).listValues =
      ts.map fun t => (Shape.value t.toList, some t) := by
    have hw := @withTokens_map String (Shape.value ·.toList) id ts
    simpa [ofTokens, listValues, Typed.tokenList, Function.comp_def] using hw
  rw [hl, List.mapM_map]
  exact List.mapM_eq_some_map fun t _ => by simp [Value.retyped?, ht]

end Condition

namespace Value

-- The values that a search with an operator and a text asks for.
inductive IsAskedBy (t : String) : Operator → Value → Prop
  | equals : IsAskedBy t .equals (.text t)
  | notEquals {v} : v ≠ .null → v ≠ .text t → IsAskedBy t .notEquals v
  | contains {s} :
    Text.lower t.toList <:+: Text.lower s.toList → IsAskedBy t .contains (.text s)
  | startsWith {s} :
    Text.lower t.toList <+: Text.lower s.toList → IsAskedBy t .startsWith (.text s)
  | endsWith {s} :
    Text.lower t.toList <:+ Text.lower s.toList → IsAskedBy t .endsWith (.text s)

variable {v : Value} {t : String}

theorem matchesSame_text_iff : v.matchesSame (.text t) ↔ v = .text t := by
  cases v <;> simp [matchesSame, isBool, same, position?]

end Value

namespace Predicate

variable {d : Document} {path t : String} {ts : List String}

theorem holds_anyOf_texts_iff :
    (anyOf path (ts.map .text)).holds d ↔ ∃ t ∈ ts, d.get? path = some (.text t) := by
  simp only [holds, Document.any_present?_iff, List.any_map, List.any_eq_true, Function.comp_apply,
    Value.matchesSame_text_iff]
  constructor
  case mp =>
    rintro ⟨_, hd, _, t, hm, rfl⟩
    exact ⟨t, hm, hd⟩
  case mpr =>
    rintro ⟨t, hm, hd⟩
    exact ⟨_, hd, by simp, t, hm, rfl⟩

end Predicate

theorem Operator.holds_iff_isAskedBy {operator : Operator} {q : String → Value → Predicate}
    {d : Document} {path t : String} (hq : operator.textPredicate? = some q) :
    (q path (.text t)).holds d ↔ ∃ v, d.get? path = some v ∧ v.IsAskedBy t operator := by
  cases operator <;> cases hq <;> rw [Predicate.holds, Document.any_present?_iff] <;>
    refine exists_congr fun v => and_congr_right fun _ => ?_
  case equals.refl =>
    rw [Value.matchesSame_text_iff]
    constructor
    case mp =>
      rintro ⟨_, rfl⟩
      exact .equals
    case mpr =>
      intro h
      cases h
      simp
  case notEquals.refl =>
    rw [Bool.not_eq_true', ← Bool.not_eq_true, Value.matchesSame_text_iff]
    constructor
    case mp => exact fun ⟨hn, hv⟩ => .notEquals hn hv
    case mpr =>
      intro h
      cases h
      case notEquals hn hv => exact ⟨hn, hv⟩
  all_goals
    rw [Predicate.textHas_iff]
    constructor
    case mp =>
      rintro ⟨_, s, rfl, hs⟩
      constructor
      exact Part.holds_iff.mp hs
    case mpr =>
      intro h
      cases h
      exact ⟨by simp, _, rfl, Part.holds_iff.mpr ‹_›⟩

namespace Query

section Searches

variable {fs : List Field} {f : Field} {type : FieldType} (hf : Field.AreAccepted fs) (hm : f ∈ fs)
  (ht : f.type = .known type) (hx : type.isTextual)

include hf hm ht hx

theorem parseSearch_text {operator : Operator} {t : String}
    (ho : operator ∈ [.equals, .notEquals, .contains, .startsWith, .endsWith])
    (hv : Phrase.IsValue t.toList) :
    ∃ p, parseSearch fs (f.name ++ ":" ++ operator.token ++ t) = .ok p ∧
      ∀ d, p.holds d ↔ ∃ v, d.get? f.name = some v ∧ v.IsAskedBy t operator := by
  obtain ⟨q, hq⟩ : ∃ q, operator.textPredicate? = some q := by
    simp only [List.mem_cons, List.not_mem_nil, or_false] at ho
    rcases ho with rfl | rfl | rfl | rfl | rfl <;> exact ⟨_, rfl⟩
  have hl : operator.isLeading := by cases operator <;> first | rfl | cases hq
  have he : operator = .greater ∨ operator = .less → t.toList.head? ≠ some 'e' := by
    rintro (rfl | rfl) <;> cases hq
  have ha : type.allows operator := by
    cases operator <;> cases hq <;> first | rfl | exact hx
  have hc : ((Phrase.led operator t.toList).condition f.name).compile? f.type =
      some (q f.name (.text t)) :=
    Condition.compile?_led_of_textual (ht ▸ hx) hq
  rw [← Field.asks_led]
  refine ⟨_, parseSearch_asks hf hm ht (.led hl hv he) ha hc, fun d => ?_⟩
  rw [Predicate.holds_all_singleton, Operator.holds_iff_isAskedBy hq]

theorem parseSearch_texts {ts : List String} (hn : ts ≠ [])
    (hts : ∀ t ∈ ts, Phrase.IsToken t.toList) :
    ∃ p, parseSearch fs (f.name ++ ":in[" ++ ",".intercalate ts ++ "]") = .ok p ∧
      ∀ d, p.holds d ↔ ∃ t ∈ ts, d.get? f.name = some (.text t) := by
  have ha : type.allows .anyOf := by cases type <;> first | rfl | cases hx
  have hc : ((Phrase.anyOf (ts.map String.toList)).condition f.name).compile? f.type =
      some (.anyOf f.name (ts.map .text)) :=
    congrArg (Option.map _) (Condition.mapM_listValues_of_textual (ht ▸ hx))
  rw [← Field.asks_anyOf]
  refine ⟨_, parseSearch_asks hf hm ht (.anyOf (by simpa) (by simpa)) ha hc, fun d => ?_⟩
  rw [Predicate.holds_all_singleton, Predicate.holds_anyOf_texts_iff]

end Searches

-- A search on a field of text asks for the text as it is typed, whatever it looks like. There is
-- always a token in a list: one without any has the empty text for its token.
theorem parseSearch_findsTexts {sources : List Field.Source} {fs : List Field} {f : Field}
    {type : FieldType} (hs : ∀ s ∈ sources, s.IsSound) (hr : Field.readSources sources = .ok fs)
    (hm : f ∈ fs) (ht : f.type = .known type) (hx : type.isTextual) :
    (∀ operator : Operator, ∀ t : String,
      operator ∈ [.equals, .notEquals, .contains, .startsWith, .endsWith] →
      Phrase.IsValue t.toList →
      ∃ p, parseSearch fs (f.name ++ ":" ++ operator.token ++ t) = .ok p ∧
        ∀ d, p.holds d ↔ ∃ v, d.get? f.name = some v ∧ v.IsAskedBy t operator) ∧
    ∀ ts : List String, ts ≠ [] → (∀ t ∈ ts, Phrase.IsToken t.toList) →
      ∃ p, parseSearch fs (f.name ++ ":in[" ++ ",".intercalate ts ++ "]") = .ok p ∧
        ∀ d, p.holds d ↔ ∃ t ∈ ts, d.get? f.name = some (.text t) := by
  have hf := Field.AreAccepted.of_readSources hs hr
  exact ⟨fun _ _ ho hv => parseSearch_text hf hm ht hx ho hv,
    fun _ hn hts => parseSearch_texts hf hm ht hx hn hts⟩

def code : Field := { name := "code", type := .known .string }

theorem parseSearch_findsTexts_code :
    ∃ p q, parseSearch [code] ("code" ++ ":" ++ "eq" ++ "007") = .ok p ∧
      p.holds [("code", .text "007")] ∧ ¬p.holds [("code", .int 7)] ∧
      parseSearch [code]
        ("code" ++ ":in[" ++ ",".intercalate ["TRUE", "2024-01-01", "gt:[1]"] ++ "]") = .ok q ∧
      q.holds [("code", .text "gt:[1]")] ∧ ¬q.holds [("code", .bool true)] := by
  have hs : ∀ s ∈ [Field.Source.document (.object [("name", .text "code"),
      ("type", .text "string")])], s.IsSound := by
    simp [Field.Source.IsSound]
  have hr : Field.readSources [.document (.object [("name", .text "code"),
      ("type", .text "string")])] = .ok [code] := rfl
  have ht : ∀ t ∈ ["TRUE", "2024-01-01", "gt:[1]"], Phrase.IsToken t.toList := by
    simp only [List.forall_mem_cons, List.not_mem_nil, false_implies, implies_true, and_true]
    exact ⟨⟨by decide, by decide, by decide, by decide⟩,
      ⟨by decide, by decide, by decide, by decide⟩, ⟨by decide, by decide, by decide, by decide⟩⟩
  obtain ⟨hone, hlist⟩ := parseSearch_findsTexts hs hr List.mem_cons_self rfl rfl
  obtain ⟨p, hp, hpd⟩ := hone .equals "007" (by simp) ⟨by decide, by decide⟩
  obtain ⟨q, hq, hqd⟩ := hlist _ (by simp) ht
  refine ⟨p, q, hp, (hpd _).mpr ⟨_, rfl, .equals⟩, fun h => ?_, hq,
    (hqd _).mpr ⟨"gt:[1]", by simp, rfl⟩, fun h => ?_⟩
  case refine_1 =>
    obtain ⟨v, hv, ha⟩ := (hpd _).mp h
    cases ha
    cases hv
  case refine_2 =>
    obtain ⟨t, _, hv⟩ := (hqd _).mp h
    cases hv

end Query

end EntityCatalog
