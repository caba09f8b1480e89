import EntityCatalog.Proofs.Filter.Search
import EntityCatalog.Proofs.Store.Cell
import EntityCatalog.Proofs.Text.Ascii
import EntityCatalog.Store.Path
import Mathlib

namespace EntityCatalog

variable {name path : String} {c : Char} {cs : List Char}

namespace Json

theorem escapeChar_ne_nil : escapeChar true c ≠ [] := by
  rcases escapeChar_eq_or c with h | h
  case inl => simp [h]
  case inr => exact List.ne_nil_of_mem h

theorem two_le_length_hex4 (n : Nat) : 2 ≤ (hex4 n).length := by
  simp [hex4]

theorem two_le_length_escapeChar (h : ¬isPlainChar c) : 2 ≤ (escapeChar true c).length := by
  unfold escapeChar
  repeat' split
  all_goals try first
    | exact Nat.le_refl 2
    | exact two_le_length_hex4 _
    | exact List.length_append ▸ Nat.le_add_right_of_le (two_le_length_hex4 _)
  -- A character that is written as it is would be plain.
  next hq hb _ _ _ _ _ hl hu =>
    simp only [Bool.not_true, Bool.false_or, decide_eq_true_eq] at hu
    simp only [isPlainChar, Bool.and_eq_true, decide_eq_true_eq, bne_iff_ne] at h
    exact absurd ⟨⟨⟨Nat.le_of_not_lt hl, Nat.le_of_lt_succ hu⟩, hq⟩, hb⟩ h

theorem length_le_escape : cs.length ≤ (cs.flatMap (escapeChar true)).length := by
  induction cs
  case nil => exact Nat.le_refl _
  case cons c cs hi =>
    have hc : 0 < (escapeChar true c).length := List.length_pos_iff.mpr escapeChar_ne_nil
    simp only [List.length_cons, List.flatMap_cons, List.length_append]
    omega

theorem length_lt_escape (hm : c ∈ cs) (h : ¬isPlainChar c) :
    cs.length < (cs.flatMap (escapeChar true)).length := by
  induction cs
  case nil => cases hm
  case cons a cs hi =>
    simp only [List.length_cons, List.flatMap_cons, List.length_append]
    rcases List.mem_cons.mp hm with rfl | hm
    case inl =>
      have hc := two_le_length_escapeChar h
      have hcs : cs.length ≤ _ := length_le_escape
      omega
    case inr =>
      have ha : 0 < (escapeChar true a).length := List.length_pos_iff.mpr escapeChar_ne_nil
      have hcs := hi hm
      omega

theorem escapeText_eq_self_iff : escapeText true name = name ↔ isPlainName name := by
  refine ⟨fun h => List.all_eq_true.mpr fun c hc => ?_, escapeText_of_plain⟩
  by_contra hn
  have hl := length_lt_escape hc hn
  have he := congrArg (·.toList.length) h
  simp only [escapeText, String.toList_ofList] at he
  omega

end Json

-- The label that a path asks for. A path is read up to a NUL character, a label up to its quote.
def label? (path : String) : Option String :=
  match path.toList.takeWhile (·.toNat ≠ 0) with
  | '$' :: '.' :: '"' :: cs =>
    match Text.cutAt '"' cs with
    | some (label, []) => some (String.ofList label)
    | _ => none
  | _ => none

theorem isPath_iff : isPath path ↔ '"' ∉ path.toList ∧ '\x00' ∉ path.toList := by
  simp only [isPath, List.all_eq_true, Bool.and_eq_true, bne_iff_ne, decide_eq_true_eq,
    Cell.toNat_ne_zero_iff]
  constructor
  case mp => exact fun h => ⟨fun hm => (h _ hm).1 rfl, fun hm => (h _ hm).2 rfl⟩
  case mpr => exact fun h c hm => ⟨fun e => h.1 (e ▸ hm), fun e => h.2 (e ▸ hm)⟩

theorem toList_memberPath :
    (memberPath name).toList = '$' :: '.' :: '"' :: (name.toList ++ ['"']) := by
  simp [memberPath]

theorem label?_memberPath (h : isPath name) : label? (memberPath name) = some name := by
  have ⟨hq, hn⟩ := isPath_iff.mp h
  have hp : '\x00' ∉ (memberPath name).toList := by simpa [toList_memberPath] using hn
  rw [label?, Cell.takeWhile_of_nul_not_mem hp, toList_memberPath]
  simp only [Text.cutAt_append hq, String.ofList_toList]

theorem label?_memberPath_of_nul (hq : '"' ∉ name.toList) (hn : '\x00' ∈ name.toList) :
    label? (memberPath name) = none := by
  have ⟨a, b, he, ha⟩ := List.eq_append_cons_of_mem hn
  have hp : (memberPath name).toList = ('$' :: '.' :: '"' :: a) ++ '\x00' :: (b ++ ['"']) := by
    simp [toList_memberPath, he]
  have hna : '\x00' ∉ '$' :: '.' :: '"' :: a := by simpa using ha
  have hc : Text.cutAt '"' a = none := Text.cutAt_eq_none fun hm => hq (by simp [he, hm])
  rw [label?, hp, Cell.takeWhile_append_nul hna]
  simp [hc]

namespace Document

variable {d : Document} {v : Value}

def memberAt? (d : Document) (path : String) : Option (Option Value) :=
  (label? path).map d.labelled?

def cellAt? (d : Document) (path : String) : Option Cell :=
  (d.memberAt? path).map fun v => v.elim .null Cell.ofValue

def kindAt? (d : Document) (path : String) : Option (Option Kind) :=
  (d.memberAt? path).map (Option.map Value.kind)

theorem memberAt?_memberPath (h : isPath name) :
    d.memberAt? (memberPath name) = some (d.labelled? name) := by
  rw [memberAt?, label?_memberPath h, Option.map_some]

theorem cellAt?_memberPath (h : isPath name) :
    d.cellAt? (memberPath name) = some (d.cell name) := by
  rw [cellAt?, memberAt?_memberPath h, cell]
  cases d.labelled? name <;> rfl

theorem kindAt?_memberPath (h : isPath name) :
    d.kindAt? (memberPath name) = some (d.kind? name) := by
  rw [kindAt?, memberAt?_memberPath h, kind?, Option.map_some]

-- Under a name in which something is escaped the store finds another member or none.
theorem key_ne_of_memberAt? (hq : '"' ∉ name.toList) (hp : ¬isPlainName name)
    (h : d.memberAt? (memberPath name) = some (some v)) :
    ∃ k, k ≠ name ∧ (k, v) ∈ d ∧ Json.escapeText true k = name := by
  by_cases hn : '\x00' ∈ name.toList
  case pos => simp [memberAt?, label?_memberPath_of_nul hq hn] at h
  case neg =>
    rw [memberAt?_memberPath (isPath_iff.mpr ⟨hq, hn⟩)] at h
    obtain ⟨⟨k, w⟩, hf, rfl⟩ := Option.map_eq_some_iff.mp (Option.some.inj h)
    have hk : Json.escapeText true k = name := by simpa using List.find?_some hf
    refine ⟨k, ?_, List.mem_of_find?_eq_some hf, hk⟩
    rintro rfl
    exact hp (Json.escapeText_eq_self_iff.mp hk)

end Document

-- The path of a name leads to the member of that name, in every document.
def IsAddressed (name : String) : Prop :=
  ∀ d : Document,
    d.cellAt? (memberPath name) = some ((d.get? name).elim .null .ofValue) ∧
    d.kindAt? (memberPath name) = some ((d.get? name).map Value.kind)

theorem isAddressed_iff (hq : '"' ∉ name.toList) : IsAddressed name ↔ isPlainName name := by
  constructor
  case mp =>
    intro h
    by_contra hp
    let d : Document := [(name, .bool true)]
    have hk : d.kindAt? (memberPath name) = some (some (.truth true)) := by
      simp [(h d).2, d, Document.get?, Value.kind]
    obtain ⟨m, hm, hv⟩ := Option.map_eq_some_iff.mp hk
    obtain ⟨v, rfl, _⟩ := Option.map_eq_some_iff.mp hv
    obtain ⟨k, hne, hd, _⟩ := Document.key_ne_of_memberAt? hq hp hm
    cases List.mem_singleton.mp hd
    exact hne rfl
  case mpr =>
    intro h d
    have hm : d.memberAt? (memberPath name) = some (d.get? name) := by
      rw [Document.memberAt?_memberPath (isPath_of_isPlainName h), Document.labelled?_of_plain h]
    simp only [Document.cellAt?, Document.kindAt?, hm, Option.map_some, and_self]

def isLabelChar (c : Char) : Bool := 0x20 ≤ c.toNat && c != '\x7f' && c != '\\'

theorem isPlainName_iff (ha : ∀ c ∈ name.toList, Text.isAscii c) (hq : '"' ∉ name.toList) :
    isPlainName name ↔ ∀ c ∈ name.toList, isLabelChar c := by
  rw [isPlainName, List.all_eq_true]
  refine forall₂_congr fun c hc => ?_
  have hu : c.toNat < 0x80 := by simpa [Text.isAscii] using ha c hc
  have hd : c.toNat ≤ 0x7e ↔ c ≠ '\x7f' := by
    rw [Ne, ← Char.toNat_inj, show '\x7f'.toNat = 0x7f from rfl]
    omega
  have hne : c ≠ '"' := fun e => hq (e ▸ hc)
  simp only [isPlainChar, isLabelChar, Bool.and_eq_true, decide_eq_true_eq, bne_iff_ne, hd, hne,
    ne_eq, not_false_eq_true, and_true]

namespace Field

variable {f : Field} {data : Document} {n : Nat}

theorem quote_not_mem_name (h : f.IsAccepted) : '"' ∉ f.name.toList := by
  have ⟨_, _, hr⟩ := nameFlaw?_eq_none_iff.mp (nameFlaw?_of_isAccepted h)
  exact fun hm => absurd (hr _ hm) (by decide)

-- The path of an accepted name leads to the member of that name unless there is a backslash or a
-- control character in it, and then it never does. Clauses and sorts read what stands at the path,
-- which only a NUL in the name keeps from being one.
theorem isAddressed_name_iff (h : ofDocument n data = .ok f)
    (ha : ∀ c ∈ f.name.toList, Text.isAscii c) :
    (IsAddressed f.name ↔ ∀ c ∈ f.name.toList, isLabelChar c) ∧
    ((∃ c ∈ f.name.toList, ¬isLabelChar c) → ∀ (d : Document) (v : Value),
      d.memberAt? (memberPath f.name) = some (some v) →
        ∃ k, k ≠ f.name ∧ (k, v) ∈ d ∧ Json.escapeText true k = f.name) ∧
    ∀ d : Document,
      if '\x00' ∈ f.name.toList then d.memberAt? (memberPath f.name) = none
      else d.cellAt? (memberPath f.name) = some (d.cell f.name) ∧
        d.kindAt? (memberPath f.name) = some (d.kind? f.name) := by
  have hq := quote_not_mem_name (.of_ofDocument h)
  rw [isAddressed_iff hq, isPlainName_iff ha hq]
  refine ⟨Iff.rfl, fun ⟨c, hc, hn⟩ d v hm => ?_, fun d => ?_⟩
  case refine_1 =>
    refine Document.key_ne_of_memberAt? hq (fun hp => ?_) hm
    exact hn ((isPlainName_iff ha hq).mp hp c hc)
  case refine_2 =>
    split
    case isTrue hn => rw [Document.memberAt?, label?_memberPath_of_nul hq hn, Option.map_none]
    case isFalse hn =>
      have hp : isPath f.name := isPath_iff.mpr ⟨hq, hn⟩
      exact ⟨Document.cellAt?_memberPath hp, Document.kindAt?_memberPath hp⟩

def dueDate : Field := { name := "due date", type := .known .date }

theorem isAddressed_name_iff_dueDate :
    (∀ c ∈ dueDate.name.toList, Text.isAscii c) ∧ IsAddressed dueDate.name := by
  have h : ofDocument 0 [("name", .text "due date"), ("type", .text "date")] = .ok dueDate := rfl
  have ha : ∀ c ∈ dueDate.name.toList, Text.isAscii c := List.all_eq_true.mp rfl
  exact ⟨ha, (isAddressed_name_iff h ha).1.mpr (List.all_eq_true.mp rfl)⟩

theorem not_isAddressed_backslash :
    ∃ f, ofDocument 0 [("name", .text "a\\b"), ("type", .text "string")] = .ok f ∧
      (∀ c ∈ f.name.toList, Text.isAscii c) ∧
      Document.get? [("a\\b", .text "x")] f.name = some (.text "x") ∧
      Document.cellAt? [("a\\b", .text "x")] (memberPath f.name) = some .null ∧
      ¬IsAddressed f.name := by
  have hd : Document.cellAt? [("a\\b", .text "x")] (memberPath "a\\b") = some .null := rfl
  refine ⟨{ name := "a\\b", type := .known .string }, rfl, List.all_eq_true.mp rfl, rfl, hd, ?_⟩
  intro h
  cases hd.symm.trans (h _).1

end Field

end EntityCatalog
