import EntityCatalog.Proofs.Filter.Search
import EntityCatalog.Proofs.Text.Ascii
import Mathlib

namespace EntityCatalog

def IsSpelling (word spelling : String) : Prop := spelling.toList.map Char.toLower = word.toList

theorem Text.isAscii_of_toLower {c : Char} (h : isAscii c.toLower) : isAscii c := by
  by_cases hc : c.isUpper
  case pos =>
    simp only [Char.isUpper, decide_eq_true_eq] at hc
    have : c.toNat ≤ 90 := hc.2
    simp only [isAscii, decide_eq_true_eq]
    omega
  case neg => rwa [Char.toLower_eq_of_not_isUpper (by simpa using hc)] at h

theorem Text.lower_of_isSpelling {word s : String} (hw : ∀ c ∈ word.toList, isAscii c)
    (h : IsSpelling word s) : lower s.toList = word.toList := by
  refine (lower_of_ascii fun c hc => isAscii_of_toLower (hw _ ?_)).trans h
  rw [← show _ = word.toList from h]
  exact List.mem_map_of_mem hc

theorem not_mem_of_isSpelling {word s : String} {c : Char} (hc : c.toLower ∉ word.toList)
    (h : IsSpelling word s) : c ∉ s.toList := by
  intro hm
  rw [← show _ = word.toList from h] at hc
  exact hc (List.mem_map_of_mem hm)

namespace Field.IsAccepted

variable {f : Field} (h : f.IsAccepted)

include h

theorem name_ne_nil : f.name.toList ≠ [] := by
  simpa using (nameFlaw?_eq_none_iff.mp (nameFlaw?_of_isAccepted h)).1

theorem strip_name : Text.strip f.name.toList = f.name.toList := by
  have hs := (nameFlaw?_eq_none_iff.mp (nameFlaw?_of_isAccepted h)).2.1
  simpa [String.stripped] using (congrArg String.toList hs).symm

theorem not_mem_name {c : Char} (hc : isReserved c) : c ∉ f.name.toList := by
  intro hm
  have hr := (nameFlaw?_eq_none_iff.mp (nameFlaw?_of_isAccepted h)).2.2 c hm
  simp [hc] at hr

theorem strip_around {l r : List Char} (hl : ∀ c ∈ l, Text.isBlank c)
    (hr : ∀ c ∈ r, Text.isBlank c) : Text.strip (l ++ f.name.toList ++ r) = f.name.toList :=
  Text.strip_append_append hl hr h.name_ne_nil (Text.not_startsBlank_of_strip h.strip_name)
    (Text.not_endsBlank_of_strip h.strip_name)

end Field.IsAccepted

variable {fields : List Field} {f : Field}

theorem Condition.parseAll_notNull (hf : f.IsAccepted) :
    parseAll (f.name ++ ":notnull").toList = .ok [⟨f.name, .isNotNull, .null, .nothing⟩] := by
  have hc : ∀ g ∈ [(⟨f.name.toList, .isNotNull⟩ : Fragment)], g.IsClear := by
    simpa using hf.isClear .isNotNull
  have hp := parseAll_text (by simp) hc
  simpa [Text.joinWith, Fragment.text, Phrase.text, Fragment.condition, Phrase.condition] using hp

theorem Condition.checkAll_notNull (hf : Field.AreAccepted fields) (hm : f ∈ fields) :
    checkAll fields [⟨f.name, .isNotNull, .null, .nothing⟩] = .ok () := by
  obtain ⟨t, ht⟩ := (hf.accepted f hm).known
  simp [checkAll, check, checkOperator, Field.find?_of_mem hf.names hm, ht, FieldType.allows]

theorem SortKey.parse_name {d : Direction} {s : String} (hf : f.IsAccepted) (hm : f ∈ fields)
    (hs : IsSpelling d.token s) : parse fields (f.name ++ ":" ++ s) = .ok ⟨f.name, d⟩ := by
  have hn : ':' ∉ f.name.toList := hf.not_mem_name rfl
  have hd : ':' ∉ s.toList := not_mem_of_isSpelling (by cases d <;> decide) hs
  have hp : Text.splitOn ':' (f.name ++ ":" ++ s).toList = [f.name.toList, s.toList] := by
    have hc : (f.name ++ ":" ++ s).toList = f.name.toList ++ ':' :: s.toList := by simp
    rw [hc, Text.splitOn_append hn, Text.splitOn_of_not_mem hd]
  have hl : Text.lower s.toList = d.token.toList :=
    Text.lower_of_isSpelling (by cases d <;> simp [Direction.token, Text.isAscii]) hs
  have ht : Direction.ofToken? d.token = some d := by cases d <;> rfl
  have ha : fields.any (·.name == f.name) := List.any_eq_true.mpr ⟨f, hm, by simp⟩
  unfold parse
  rw [hp]
  dsimp only
  rw [hl, String.ofList_toList, ht]
  dsimp only
  rw [String.ofList_toList, if_pos ha]

namespace Query

theorem foldl_addName {names acc : List String} :
    names.foldl addName acc = acc ++ (names.filter (!acc.contains ·)).eraseDups := by
  induction names generalizing acc
  case nil => simp
  case cons name names hi =>
    rw [List.foldl_cons, hi, addName]
    split
    case isTrue hc => rw [List.filter_cons_of_neg (by simpa using hc)]
    case isFalse hc =>
      have hf : (fun n => !(acc ++ [name]).contains n) =
          fun n => !n == name && !acc.contains n := by
        funext n
        simp [Bool.and_comm, beq_eq_decide]
      rw [List.filter_cons_of_pos (by simpa using hc), List.eraseDups_cons, List.filter_filter, hf,
        List.append_assoc, List.singleton_append]

theorem parseSelect_intercalate {texts : List String} (hn : texts ≠ [])
    (hc : ∀ t ∈ texts, ',' ∉ t.toList) :
    parseSelect fields (",".intercalate texts) =
      match (texts.map String.stripped).find? fun n => !fields.any (·.name == n) with
      | some n => .error (.unknownField n .select)
      | none => .ok (texts.map String.stripped).eraseDups := by
  have hj : (",".intercalate texts).toList = Text.joinWith ',' (texts.map String.toList) := by
    rw [Text.joinWith_eq_intercalate, String.toList_intercalate]
    rfl
  have hs : Text.splitOn ',' (",".intercalate texts).toList = texts.map String.toList := by
    rw [hj]
    exact Text.splitOn_joinWith (by simpa using hn) (List.forall_mem_map.mpr hc)
  have hm : ((texts.map String.toList).map fun cs => String.ofList (Text.strip cs)) =
      texts.map String.stripped := by
    rw [List.map_map]
    rfl
  have hd : (texts.map String.stripped).foldl addName [] =
      (texts.map String.stripped).eraseDups := by
    simp [foldl_addName]
  unfold parseSelect
  rw [hs, hm]
  dsimp only
  cases (texts.map String.stripped).find? fun n => !fields.any (·.name == n)
  case none => exact congrArg Except.ok hd
  case some => rfl

variable {names texts before after : List String} {text : String}

def IsAround (name text : String) : Prop :=
  ∃ l r : String, (∀ c ∈ l.toList, Text.isBlank c) ∧ (∀ c ∈ r.toList, Text.isBlank c) ∧
    text = l ++ name ++ r

theorem stripped_of_isAround (hf : f.IsAccepted) (h : IsAround f.name text) :
    text.stripped = f.name := by
  obtain ⟨l, r, hl, hr, rfl⟩ := h
  rw [← String.toList_inj]
  simpa [String.stripped] using hf.strip_around hl hr

theorem not_mem_of_isAround {c : Char} (hc : Field.isReserved c) (hb : ¬Text.isBlank c)
    (hf : f.IsAccepted) (h : IsAround f.name text) : c ∉ text.toList := by
  obtain ⟨l, r, hl, hr, rfl⟩ := h
  simp only [String.toList_append, List.mem_append, not_or]
  exact ⟨⟨fun hm => hb (hl c hm), hf.not_mem_name hc⟩, fun hm => hb (hr c hm)⟩

theorem parseSelect_names (hf : Field.AreAccepted fields) (hn : names ≠ [])
    (hd : ∀ n ∈ names, n ∈ fields.map (·.name)) (ht : List.Forall₂ IsAround names texts) :
    parseSelect fields (",".intercalate texts) = .ok names.eraseDups := by
  have hd' := (List.forall₂_and_left _ _).mpr ⟨hd, ht⟩
  have hs : names = texts.map String.stripped := by
    rw [← List.forall₂_eq_eq_eq, List.forall₂_map_right_iff]
    refine hd'.imp fun n t ⟨hn, ha⟩ => ?_
    obtain ⟨f, hm, rfl⟩ := List.mem_map.mp hn
    exact (stripped_of_isAround (hf.accepted f hm) ha).symm
  have hc : ∀ t ∈ texts, ',' ∉ t.toList := by
    intro t ht
    obtain ⟨n, -, hn, ha⟩ := hd'.flip.exists_of_mem ht
    obtain ⟨f, hm, rfl⟩ := List.mem_map.mp hn
    exact not_mem_of_isAround rfl (by decide) (hf.accepted f hm) ha
  have hne : texts ≠ [] := by
    rintro rfl
    exact hn (List.forall₂_nil_right_iff.mp ht)
  have hf : names.find? (fun n => !fields.any (·.name == n)) = none := by
    simpa using hd
  rw [parseSelect_intercalate hne hc, ← hs, hf]

theorem parseSelect_undeclared (hc : ∀ t ∈ before ++ text :: after, ',' ∉ t.toList)
    (hd : ∀ t ∈ before, t.stripped ∈ fields.map (·.name))
    (hn : text.stripped ∉ fields.map (·.name)) :
    parseSelect fields (",".intercalate (before ++ text :: after)) =
      .error (.unknownField text.stripped .select) := by
  have hb : (before.map String.stripped).find? (fun n => !fields.any (·.name == n)) = none := by
    simpa using hd
  have ht : ((text :: after).map String.stripped).find? (fun n => !fields.any (·.name == n)) =
      some text.stripped :=
    List.find?_cons_of_pos (by simpa using hn)
  rw [parseSelect_intercalate (by simp) hc, List.map_append, List.find?_append, hb, ht]
  rfl

-- A condition, a sort directive or a selection can be about any declared field, whatever other
-- characters its name has; a selection with anything else is refused.
theorem parse_declaredNames {sources : List Field.Source} (hs : ∀ s ∈ sources, s.IsSound)
    (hr : Field.readSources sources = .ok fields) :
    (∀ f ∈ fields,
      Condition.parseAll (f.name ++ ":notnull").toList =
        .ok [⟨f.name, .isNotNull, .null, .nothing⟩] ∧
      Condition.checkAll fields [⟨f.name, .isNotNull, .null, .nothing⟩] = .ok () ∧
      ∀ d : Direction, ∀ s, IsSpelling d.token s →
        SortKey.parse fields (f.name ++ ":" ++ s) = .ok ⟨f.name, d⟩) ∧
    (∀ names texts : List String, names ≠ [] → (∀ n ∈ names, n ∈ fields.map (·.name)) →
      List.Forall₂ IsAround names texts →
      parseSelect fields (",".intercalate texts) = .ok names.eraseDups) ∧
    ∀ (before after : List String) (text : String),
      (∀ t ∈ before ++ text :: after, ',' ∉ t.toList) →
      (∀ t ∈ before, t.stripped ∈ fields.map (·.name)) →
      text.stripped ∉ fields.map (·.name) →
      parseSelect fields (",".intercalate (before ++ text :: after)) =
        .error (.unknownField text.stripped .select) := by
  have hf := Field.AreAccepted.of_readSources hs hr
  refine ⟨fun f hm => ⟨?_, ?_, fun d s hd => ?_⟩, fun names texts hn hd ht => ?_,
    fun before after text hc hd hn => ?_⟩
  case refine_1 => exact Condition.parseAll_notNull (hf.accepted f hm)
  case refine_2 => exact Condition.checkAll_notNull hf hm
  case refine_3 => exact SortKey.parse_name (hf.accepted f hm) hm hd
  case refine_4 => exact parseSelect_names hf hn hd ht
  case refine_5 => exact parseSelect_undeclared hc hd hn

theorem parse_declaredNames_blank :
    SortKey.parse [{ name := "unit price", type := .known .number },
        { name := "größe", type := .known .string }] ("größe" ++ ":" ++ "DeSC") =
      .ok ⟨"größe", .descending⟩ ∧
    parseSelect [{ name := "unit price", type := .known .number },
        { name := "größe", type := .known .string }]
        (",".intercalate ["größe", "\t unit price", "größe\u2003"]) =
      .ok ["größe", "unit price"] ∧
    parseSelect [{ name := "unit price", type := .known .number },
        { name := "größe", type := .known .string }]
        (",".intercalate (["größe"] ++ " unit  price " :: ["", "größe"])) =
      .error (.unknownField "unit  price" .select) := by
  have hs : ∀ s ∈ [Field.Source.document (.object [("name", .text "unit price"),
        ("type", .text "number")]),
      .document (.object [("name", .text "größe"), ("type", .text "string")])], s.IsSound := by
    simp [Field.Source.IsSound]
  have hr : Field.readSources [.document (.object [("name", .text "unit price"),
        ("type", .text "number")]),
      .document (.object [("name", .text "größe"), ("type", .text "string")])] =
        .ok [{ name := "unit price", type := .known .number },
          { name := "größe", type := .known .string }] := rfl
  obtain ⟨hd, hn, hu⟩ := parse_declaredNames hs hr
  refine ⟨?_, ?_, ?_⟩
  case refine_1 =>
    exact (hd { name := "größe", type := .known .string } (by simp)).2.2 .descending "DeSC" rfl
  case refine_2 =>
    have ht : List.Forall₂ IsAround ["größe", "unit price", "größe"]
        ["größe", "\t unit price", "größe\u2003"] := by
      refine .cons ⟨"", "", ?_⟩ (.cons ⟨"\t ", "", ?_⟩ (.cons ⟨"", "\u2003", ?_⟩ .nil)) <;>
        simp [Text.isBlank]
    exact hn _ _ (by simp) (by simp) ht
  case refine_3 =>
    exact hu ["größe"] ["", "größe"] " unit  price " (by decide) (by decide) (by decide)

end Query

end EntityCatalog
