import EntityCatalog.Store.Cell
import EntityCatalog.Store.Selection
import Mathlib

namespace EntityCatalog

def isPlainChar (c : Char) : Bool := 0x20 ≤ c.toNat && c.toNat ≤ 0x7e && c != '"' && c != '\\'

def isPlainName (name : String) : Bool := name.toList.all isPlainChar

namespace Value

-- Truth values, integers of less than 64 bits, finite numbers, and texts without NUL.
def isScalar : Value → Bool
  | bool _ => true
  | int n => n.natAbs < 2 ^ 63
  | real x => x.isFinite
  | text s => s.toList.all (·.toNat ≠ 0)
  | _ => false

-- What members of stored documents may be. Nothing is asked of what is inside of them.
def isStorable : Value → Bool
  | null | list _ | object _ => true
  | v => v.isScalar

end Value

def Document.isStorable (d : Document) : Bool := d.all fun m => isPlainName m.1 && m.2.isStorable

namespace Cell

theorem toNat_ne_zero_iff {c : Char} : c.toNat ≠ 0 ↔ c ≠ '\x00' := by
  simp [← Char.toNat_inj]

theorem all_ne_zero_iff {t : List Char} : t.all (·.toNat ≠ 0) ↔ '\x00' ∉ t := by
  simp only [List.all_eq_true, decide_eq_true_eq, toNat_ne_zero_iff]
  exact ⟨fun h hm => h _ hm rfl, fun h c hm e => h (e ▸ hm)⟩

theorem takeWhile_of_nul_not_mem {t : List Char} (h : '\x00' ∉ t) :
    t.takeWhile (·.toNat ≠ 0) = t :=
  List.takeWhile_eq_self_iff.mpr (List.all_eq_true.mp (all_ne_zero_iff.mpr h))

theorem takeWhile_append_nul {a b : List Char} (h : '\x00' ∉ a) :
    (a ++ '\x00' :: b).takeWhile (·.toNat ≠ 0) = a := by
  rw [List.takeWhile_append, takeWhile_of_nul_not_mem h]
  simp

theorem beforeNul_eq {s : String} (h : s.toList.all (·.toNat ≠ 0)) : beforeNul s = s := by
  rw [beforeNul, takeWhile_of_nul_not_mem (all_ne_zero_iff.mp h), String.ofList_toList]

end Cell

theorem Json.escapeChar_of_plain {c : Char} (h : isPlainChar c) : escapeChar true c = [c] := by
  simp only [isPlainChar, Bool.and_eq_true, decide_eq_true_eq, bne_iff_ne] at h
  obtain ⟨⟨⟨hl, hu⟩, hq⟩, hb⟩ := h
  have hne {w : Char} (hw : w.toNat < 0x20) : c ≠ w := by rintro rfl; omega
  have hs : ¬c.toNat < 0x20 := by omega
  have ha : c.toNat < 0x7f := by omega
  simp [escapeChar, hq, hb, hne (w := '\n') (by decide), hne (w := '\r') (by decide),
    hne (w := '\t') (by decide), hne (w := '\x08') (by decide), hne (w := '\x0c') (by decide),
    hs, ha]

theorem Json.escapeText_of_plain {name : String} (h : isPlainName name) :
    escapeText true name = name := by
  have hc : ∀ c ∈ name.toList, escapeChar true c = [c] := by
    intro c hc
    exact escapeChar_of_plain (List.all_eq_true.mp h c hc)
  simp [escapeText, List.flatMap_congr hc]

theorem Json.escapeChar_eq_or (c : Char) : escapeChar true c = [c] ∨ '\\' ∈ escapeChar true c := by
  unfold escapeChar
  repeat' split
  all_goals first
    | exact .inr List.mem_cons_self
    | exact .inr (List.mem_append_left _ List.mem_cons_self)
    | exact .inl rfl

theorem Json.escapeText_eq_iff {name label : String} (h : isPlainName label) :
    escapeText true name = label ↔ name = label := by
  constructor
  case mp =>
    intro he
    have hc : ∀ c ∈ name.toList, escapeChar true c = [c] := by
      intro c hc
      refine (escapeChar_eq_or c).resolve_right fun hb => ?_
      have hm : '\\' ∈ label.toList := by
        rw [← he, escapeText, String.toList_ofList, List.mem_flatMap]
        exact ⟨c, hc, hb⟩
      have := List.all_eq_true.mp h _ hm
      simp [isPlainChar] at this
    rw [← he, escapeText, List.flatMap_congr hc]
    simp
  case mpr =>
    rintro rfl
    exact escapeText_of_plain h

theorem isPath_of_isPlainName {path : String} (h : isPlainName path) : isPath path := by
  rw [isPath, List.all_eq_true]
  intro c hc
  have := List.all_eq_true.mp h c hc
  simp only [isPlainChar, Bool.and_eq_true, decide_eq_true_eq] at this ⊢
  exact ⟨this.1.2, by omega⟩

namespace Document

variable {d : Document} {path : String} {a : Value}

theorem present?_eq_none_iff :
    d.present? path = none ↔ d.get? path = none ∨ d.get? path = some .null := by
  unfold present?; split <;> simp_all

theorem present?_eq_some_iff :
    d.present? path = some a ↔ d.get? path = some a ∧ a ≠ .null := by
  unfold present?; split <;> simp_all; try rintro rfl; simp_all

theorem any_present?_iff {test : Value → Bool} :
    (d.present? path).any test ↔ ∃ v, d.get? path = some v ∧ v ≠ .null ∧ test v := by
  simp only [Option.any_eq_true, present?_eq_some_iff, and_assoc]

theorem labelled?_eq_get? (hd : d.isStorable) : d.labelled? path = d.get? path := by
  induction d
  case nil => rfl
  case cons m d hi =>
    obtain ⟨name, v⟩ := m
    simp only [isStorable, List.all_cons, Bool.and_eq_true] at hd
    have he := Json.escapeText_of_plain hd.1.1
    by_cases h : name = path
    case pos => subst h; simp [labelled?, get?, he]
    case neg =>
      have hi := hi hd.2
      have hn : (path == name) = false := by simpa using Ne.symm h
      simp only [labelled?, get?] at hi ⊢
      rw [List.find?_cons_of_neg (by simpa [he] using h), List.lookup_cons, hn, hi]

theorem labelled?_of_plain (h : isPlainName path) : d.labelled? path = d.get? path := by
  induction d
  case nil => rfl
  case cons m d hi =>
    obtain ⟨name, v⟩ := m
    have he : (Json.escapeText true name == path) = (path == name) := by
      rw [Bool.eq_iff_iff, beq_iff_eq, beq_iff_eq, Json.escapeText_eq_iff h, eq_comm]
    simp only [labelled?, get?] at hi ⊢
    rw [List.find?_cons, List.lookup_cons, he]
    cases path == name
    case false => exact hi
    case true => rfl

theorem isStorable_of_get? (hd : d.isStorable) (h : d.get? path = some a) : a.isStorable := by
  have hm : (path, a) ∈ d := List.lookup_eq_some_iff.mp h |>.elim fun l ⟨r, hr, _⟩ => by simp [hr]
  have := List.all_eq_true.mp hd _ hm
  simp_all

theorem cell_of_absent (hd : d.isStorable) (h : d.present? path = none) : d.cell path = .null := by
  rcases present?_eq_none_iff.mp h with h | h <;> simp [cell, labelled?_eq_get? hd, h, Cell.ofValue]

theorem kind?_of_absent (hd : d.isStorable) (h : d.present? path = none) :
    d.kind? path = none ∨ d.kind? path = some .null := by
  rcases present?_eq_none_iff.mp h with h | h <;> simp [kind?, labelled?_eq_get? hd, h, Value.kind]

theorem cell_of_present (hd : d.isStorable) (h : d.present? path = some a) :
    d.cell path = .ofValue a := by
  simp [cell, labelled?_eq_get? hd, (present?_eq_some_iff.mp h).1]

theorem kind?_of_present (hd : d.isStorable) (h : d.present? path = some a) :
    d.kind? path = some a.kind := by
  simp [kind?, labelled?_eq_get? hd, (present?_eq_some_iff.mp h).1]

end Document

end EntityCatalog
