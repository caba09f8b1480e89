import EntityCatalog.Filter.Parser
import EntityCatalog.Proofs.Lookup
import EntityCatalog.Proofs.Text.Blank
import EntityCatalog.Proofs.Text.Split

namespace EntityCatalog

def Operator.isLeading : Operator → Bool
  | .isTrue | .isFalse | .isNull | .isNotNull | .anyOf | .noneOf => false
  | _ => true

-- What is written after the colon of a condition.
inductive Phrase where
  | isTrue
  | isFalse
  | isNull
  | isNotNull
  | anyOf (tokens : List (List Char))
  | noneOf (tokens : List (List Char))
  | led (operator : Operator) (value : List Char)
  | bare (value : List Char)

namespace Phrase

def listText (opening : List Char) (tokens : List (List Char)) : List Char :=
  opening ++ Text.joinWith ',' tokens ++ [']']

def text : Phrase → List Char
  | isTrue => ['t', 'r', 'u', 'e']
  | isFalse => ['f', 'a', 'l', 's', 'e']
  | isNull => ['n', 'u', 'l', 'l']
  | isNotNull => ['n', 'o', 't', 'n', 'u', 'l', 'l']
  | anyOf tokens => listText ['i', 'n', '['] tokens
  | noneOf tokens => listText ['n', 'i', 'n', '['] tokens
  | led operator value => operator.token.toList ++ value
  | bare value => value

def condition (field : String) : Phrase → Condition
  | isTrue => ⟨field, .isTrue, .bool true, .nothing⟩
  | isFalse => ⟨field, .isFalse, .bool false, .nothing⟩
  | isNull => ⟨field, .isNull, .null, .nothing⟩
  | isNotNull => ⟨field, .isNotNull, .null, .nothing⟩
  | anyOf tokens =>
    ⟨field, .anyOf, .list (tokens.map Shape.value), .tokens (tokens.map String.ofList)⟩
  | noneOf tokens =>
    ⟨field, .noneOf, .list (tokens.map Shape.value), .tokens (tokens.map String.ofList)⟩
  | led operator value => ⟨field, operator, Shape.value value, .text (String.ofList value)⟩
  | bare value => ⟨field, .equals, Shape.value value, .text (String.ofList value)⟩

structure IsValue (value : List Char) : Prop where
  whole : ';' ∉ value
  last  : ¬Text.endsBlank value

structure IsToken (token : List Char) : Prop where
  single : ',' ∉ token
  whole  : ';' ∉ token
  first  : ¬Text.startsBlank token
  last   : ¬Text.endsBlank token

-- Phrases that do not take the form of another one.
inductive IsClear : Phrase → Prop
  | isTrue : IsClear isTrue
  | isFalse : IsClear isFalse
  | isNull : IsClear isNull
  | isNotNull : IsClear isNotNull
  | anyOf {tokens} : tokens ≠ [] → (∀ token ∈ tokens, IsToken token) → IsClear (anyOf tokens)
  | noneOf {tokens} : tokens ≠ [] → (∀ token ∈ tokens, IsToken token) → IsClear (noneOf tokens)
  | led {operator value} :
    operator.isLeading →
    IsValue value →
    -- The operators for greater and less are longer by this letter if they include equality.
    (operator = .greater ∨ operator = .less → value.head? ≠ some 'e') →
    IsClear (led operator value)
  | bare {value} :
    value ≠ [] →
    IsValue value →
    value ∉ ["true".toList, "false".toList, "null".toList, "notnull".toList] →
    (∀ opening ∈ ["in[".toList, "nin[".toList], opening <+: value → value.getLast? ≠ some ']') →
    (∀ operator : Operator, operator.isLeading → ¬operator.token.toList <+: value) →
    IsClear (bare value)

variable {field : String} {tokens : List (List Char)} {value : List Char} {operator : Operator}
  {p : Phrase}

theorem tokens?_listText {opening : List Char} (hn : tokens ≠ [])
    (ht : ∀ token ∈ tokens, IsToken token) :
    Condition.tokens? opening (listText opening tokens) = some tokens := by
  have hl : (listText opening tokens).getLast? = some ']' := by simp [listText]
  have ha : Text.after? opening (listText opening tokens) =
      some (Text.joinWith ',' tokens ++ [']']) := by
    rw [listText, List.append_assoc, Text.after?_append]
  have hs : Text.splitOn ',' (Text.joinWith ',' tokens) = tokens :=
    Text.splitOn_joinWith hn fun token hm => (ht token hm).single
  have hm : tokens.map Text.strip = tokens := by
    have hs : ∀ token ∈ tokens, Text.strip token = token := fun token hm =>
      Text.strip_eq_self (ht token hm).first (ht token hm).last
    rw [List.map_congr_left hs, List.map_id']
  simp [Condition.tokens?, hl, ha, hs, hm]

theorem ofWord?_led (h : operator.isLeading) :
    Operator.ofWord? (operator.token.toList ++ value) = none := by
  cases operator <;> simp [Operator.isLeading, Operator.ofWord?, Operator.token] at h ⊢

theorem tokens?_led (h : operator.isLeading) {opening : List Char}
    (ho : opening ∈ ["in[".toList, "nin[".toList]) :
    Condition.tokens? opening (operator.token.toList ++ value) = none := by
  have hn : ¬opening <+: operator.token.toList ++ value := by
    simp only [List.mem_cons, List.not_mem_nil, or_false] at ho
    rcases ho with rfl | rfl <;> cases operator <;>
      simp [Operator.isLeading, Operator.token] at h ⊢
  simp [Condition.tokens?, Text.after?_eq_none_iff.mpr hn]

def lead? (cs : List Char) : Option (Operator × List Char) :=
  Operator.leading.findSome? fun o => (Text.after? o.token.toList cs).map (o, ·)

theorem lead?_led (h : operator.isLeading)
    (he : operator = .greater ∨ operator = .less → value.head? ≠ some 'e') :
    lead? (operator.token.toList ++ value) = some (operator, value) := by
  have he : operator = .greater ∨ operator = .less → ¬['e'] <+: value := by
    intro ho hp
    have ⟨rest, hr⟩ := hp
    exact he ho (by simp [← hr])
  cases operator <;>
    simp [Operator.isLeading, lead?, Operator.leading, Text.after?, Operator.token,
      List.findSome?_cons] at h he ⊢
  all_goals simp [he]

theorem lead?_bare
    (h : ∀ operator : Operator, operator.isLeading → ¬operator.token.toList <+: value) :
    lead? value = none := by
  simp only [lead?, List.findSome?_eq_none_iff, Option.map_eq_none_iff, Text.after?_eq_none_iff]
  intro o ho
  refine h o ?_
  cases o <;> first | rfl | simp [Operator.leading] at ho

theorem ofOperatorValue_text (h : p.IsClear) :
    Condition.ofOperatorValue field p.text = p.condition field := by
  cases h
  case isTrue => rfl
  case isFalse => rfl
  case isNull => rfl
  case isNotNull => rfl
  case anyOf tokens hn ht =>
    have hw : Operator.ofWord? (listText ['i', 'n', '['] tokens) = none := by
      simp [Operator.ofWord?, listText]
    have ht : Condition.tokens? "in[".toList (listText ['i', 'n', '['] tokens) = some tokens :=
      tokens?_listText hn ht
    simp only [Condition.ofOperatorValue, text, hw, ht]
    rfl
  case noneOf tokens hn ht =>
    have hw : Operator.ofWord? (listText ['n', 'i', 'n', '['] tokens) = none := by
      simp [Operator.ofWord?, listText]
    have hi : Condition.tokens? "in[".toList (listText ['n', 'i', 'n', '['] tokens) = none := by
      simp [Condition.tokens?, Text.after?, listText]
    have ht : Condition.tokens? "nin[".toList (listText ['n', 'i', 'n', '['] tokens) =
        some tokens :=
      tokens?_listText hn ht
    simp only [Condition.ofOperatorValue, text, hw, hi, ht]
    rfl
  case led o v ho hv he =>
    have hi : Condition.tokens? "in[".toList (o.token.toList ++ v) = none :=
      tokens?_led ho (by simp)
    have hn : Condition.tokens? "nin[".toList (o.token.toList ++ v) = none :=
      tokens?_led ho (by simp)
    have hl := lead?_led ho he
    simp only [lead?] at hl
    simp only [Condition.ofOperatorValue, text, ofWord?_led ho, hi, hn, hl]
    rfl
  case bare v hn hv hw hl ho =>
    have hw : Operator.ofWord? v = none := by
      simp only [List.mem_cons, List.not_mem_nil, or_false, not_or] at hw
      simp only [Operator.ofWord?, if_neg hw.1, if_neg hw.2.1, if_neg hw.2.2.1, if_neg hw.2.2.2]
    have ht {opening : List Char} (hm : opening ∈ ["in[".toList, "nin[".toList]) :
        Condition.tokens? opening v = none := by
      unfold Condition.tokens?
      split
      case isTrue hb =>
        have hp : ¬opening <+: v := fun hp => hl opening hm hp hb
        simp [Text.after?_eq_none_iff.mpr hp]
      case isFalse => rfl
    have hi : Condition.tokens? "in[".toList v = none := ht (by simp)
    have hn : Condition.tokens? "nin[".toList v = none := ht (by simp)
    have hb := lead?_bare ho
    simp only [lead?] at hb
    simp only [Condition.ofOperatorValue, text, hw, hi, hn, hb]
    rfl

theorem text_ne_nil (h : p.IsClear) : p.text ≠ [] := by
  cases h
  case led o v ho hv he =>
    have ht : o.token.toList ≠ [] := by cases o <;> simp [Operator.token]
    exact List.append_ne_nil_of_left_ne_nil ht v
  case bare v hn hv hw hl ho => exact hn
  all_goals simp [text, listText]

theorem isValue_listText {opening : List Char} (ho : ';' ∉ opening)
    (ht : ∀ token ∈ tokens, IsToken token) : IsValue (listText opening tokens) where
  whole := by
    have hj : ';' ∉ Text.joinWith ',' tokens := by
      intro hm
      rcases Text.mem_joinWith hm with he | ⟨token, ht', hc⟩
      case inl => cases he
      case inr => exact (ht token ht').whole hc
    simp [listText, ho, hj]
  last := by simp [listText, Text.endsBlank, Text.isBlank]

theorem isValue_text (h : p.IsClear) : IsValue p.text := by
  cases h
  case anyOf tokens hn ht => exact isValue_listText (by simp) ht
  case noneOf tokens hn ht => exact isValue_listText (by simp) ht
  case led o v ho hv he =>
    have hw : ';' ∉ o.token.toList := by cases o <;> simp [Operator.token]
    have hl : ¬Text.endsBlank o.token.toList := by cases o <;> decide
    refine ⟨fun hm => ?_, Text.not_endsBlank_append hl hv.last⟩
    exact (List.mem_append.mp hm).elim hw hv.whole
  case bare v hn hv hw hl ho => exact hv
  all_goals exact ⟨by simp [text], by simp [text, Text.endsBlank, Text.isBlank]⟩

end Phrase

-- A condition as it is written: a field, a colon and a phrase.
structure Fragment where
  field : List Char
  phrase : Phrase

namespace Fragment

def text (f : Fragment) : List Char := f.field ++ ':' :: f.phrase.text

def condition (f : Fragment) : Condition := f.phrase.condition (String.ofList f.field)

structure IsClear (f : Fragment) : Prop where
  named  : f.field ≠ []
  colon  : ':' ∉ f.field
  whole  : ';' ∉ f.field
  first  : ¬Text.startsBlank f.field
  phrase : f.phrase.IsClear

namespace IsClear

variable {f : Fragment} (h : f.IsClear)

include h

theorem strip_text : Text.strip f.text = f.text := by
  have hs : ¬Text.startsBlank f.text := Text.not_startsBlank_append h.named h.first
  have hc : ¬Text.endsBlank (f.field ++ [':']) := by simp [Text.endsBlank, Text.isBlank]
  have he : ¬Text.endsBlank f.text := by
    simpa [text] using Text.not_endsBlank_append hc (Phrase.isValue_text h.phrase).last
  exact Text.strip_eq_self hs he

theorem not_mem_text : ';' ∉ f.text := by
  simp [text, h.whole, (Phrase.isValue_text h.phrase).whole]

theorem exists_not_isBlank : ∃ c rest, f.text = c :: rest ∧ Text.isBlank c = false := by
  have hn := h.named
  have hs := h.first
  cases hf : f.field
  case nil => exact absurd hf hn
  case cons c cs =>
    refine ⟨c, cs ++ ':' :: f.phrase.text, by simp [text, hf], ?_⟩
    simpa [hf, Text.startsBlank] using hs

theorem parse_text : Condition.parse f.text = .ok f.condition := by
  have hc : Text.cutAt ':' f.text = some (f.field, f.phrase.text) := Text.cutAt_append h.colon
  unfold Condition.parse
  dsimp only
  split
  case h_1 hn => simp [hc] at hn
  case h_2 rest hn => simp [hc, h.named] at hn
  case h_3 field _ hn => simp [hc, Phrase.text_ne_nil h.phrase] at hn
  case h_4 field rest _ _ he =>
    cases hc.symm.trans he
    rw [Phrase.ofOperatorValue_text h.phrase, condition]

end IsClear

end Fragment

-- A search of clear conditions is read as these conditions, in their order.
theorem Condition.parseAll_text {fs : List Fragment} (hn : fs ≠ []) (h : ∀ f ∈ fs, f.IsClear) :
    Condition.parseAll (Text.joinWith ';' (fs.map Fragment.text)) =
      .ok (fs.map Fragment.condition) := by
  have hb : (Text.joinWith ';' (fs.map Fragment.text)).all Text.isBlank = false := by
    cases fs
    case nil => exact absurd rfl hn
    case cons f fs =>
      have ⟨c, rest, hc, hb⟩ := (h f (by simp)).exists_not_isBlank
      have hp : f.text <+: Text.joinWith ';' (f.text :: fs.map Fragment.text) :=
        Text.prefix_joinWith
      have ⟨more, hm⟩ := hp
      rw [List.map_cons, ← hm, hc]
      simp [hb]
  have hs : Text.splitOn ';' (Text.joinWith ';' (fs.map Fragment.text)) = fs.map Fragment.text := by
    refine Text.splitOn_joinWith (by simpa using hn) fun part hp => ?_
    have ⟨f, hf, he⟩ := List.mem_map.mp hp
    exact he ▸ (h f hf).not_mem_text
  have ht : (fs.map Fragment.text).map Text.strip = fs.map Fragment.text := by
    rw [List.map_map]
    exact List.map_congr_left fun f hf => (h f hf).strip_text
  rw [Condition.parseAll, hb, hs, ht, if_neg (by simp)]
  exact List.mapM_map_eq_ok fun f hf => (h f hf).parse_text

theorem Condition.parseAll_nested :
    Condition.parseAll "a:lte:in[x];b:nin[gt,,x y];a:nullx;c d:in[;b:notnull;a:gt".toList =
      .ok [
        ⟨"a", .lessOrEqual, Shape.value ":in[x]".toList, .text ":in[x]"⟩,
        ⟨"b", .noneOf, .list (["gt", "", "x y"].map (Shape.value ·.toList)),
          .tokens ["gt", "", "x y"]⟩,
        ⟨"a", .equals, Shape.value "nullx".toList, .text "nullx"⟩,
        ⟨"c d", .equals, Shape.value "in[".toList, .text "in["⟩,
        ⟨"b", .isNotNull, .null, .nothing⟩,
        ⟨"a", .greater, Shape.value "".toList, .text ""⟩] :=
  @Condition.parseAll_text
    [ ⟨"a".toList, .led .lessOrEqual ":in[x]".toList⟩,
      ⟨"b".toList, .noneOf ["gt".toList, "".toList, "x y".toList]⟩,
      ⟨"a".toList, .bare "nullx".toList⟩,
      ⟨"c d".toList, .bare "in[".toList⟩,
      ⟨"b".toList, .isNotNull⟩,
      ⟨"a".toList, .led .greater "".toList⟩]
    (by simp)
    (by
      intro f hf
      simp only [List.mem_cons, List.not_mem_nil, or_false] at hf
      rcases hf with rfl | rfl | rfl | rfl | rfl | rfl
      all_goals refine ⟨by decide, by decide, by decide, by decide, ?_⟩
      · exact .led rfl ⟨by decide, by decide⟩ (by decide)
      · refine .noneOf (by decide) fun token ht => ?_
        simp only [List.mem_cons, List.not_mem_nil, or_false] at ht
        rcases ht with rfl | rfl | rfl <;> exact ⟨by decide, by decide, by decide, by decide⟩
      · refine .bare (by decide) ⟨by decide, by decide⟩ (by decide) (by decide) fun o ho => ?_
        cases o <;> first | decide | cases ho
      · refine .bare (by decide) ⟨by decide, by decide⟩ (by decide) (by decide) fun o ho => ?_
        cases o <;> first | decide | cases ho
      · exact .isNotNull
      · exact .led rfl ⟨by decide, by decide⟩ (by decide))

end EntityCatalog
