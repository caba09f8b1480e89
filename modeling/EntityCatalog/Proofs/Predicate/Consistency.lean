import EntityCatalog.Proofs.Predicate.Relation
import Mathlib

namespace EntityCatalog

-- Numbers by their units on the line, and texts after them.
abbrev Rank := Int ⊕ₗ String

namespace Rank

def number (u : Int) : Rank := Sum.inlₗ u

def text (s : String) : Rank := Sum.inrₗ s

variable {order : Comparison} {u w : Int} {s t : String}

theorem number_inj : number u = number w ↔ u = w := by
  simp [number]

theorem text_inj : text s = text t ↔ s = t := by
  simp [text]

theorem relates_number : order.Relates (number u) (number w) ↔ order.Relates u w := by
  cases order <;> simp [Comparison.Relates, number]

theorem relates_text : order.Relates (text s) (text t) ↔ order.Relates s t := by
  cases order <;> simp [Comparison.Relates, text]

end Rank

namespace Comparison

variable {order : Comparison}

theorem Relates.trans {α : Type} [Preorder α] {x y z : α} (hxy : order.Relates x y)
    (hyz : order.Relates y z) : order.Relates x z := by
  cases order
  case less => exact lt_trans hxy hyz
  case lessOrEqual => exact le_trans hxy hyz
  case greater => exact lt_trans hyz hxy
  case greaterOrEqual => exact le_trans hyz hxy

theorem holdsAt_point {u w : Int} : order.holdsAt (.point u) (.point w) ↔ order.Relates u w := by
  cases order <;> simp [holdsAt, Relates, Position.le, Position.lt, Position.same] <;> omega

theorem holdsFor_iff {s t : String} : order.holdsFor s t ↔ order.Relates s t := by
  cases order <;>
    simp only [holdsFor, Relates, Bool.not_eq_true', decide_eq_false_iff_not, decide_eq_true_iff,
      not_lt]

end Comparison

namespace Value

variable {a b c : Value} {x y : Rank} {order : Comparison}

def isText : Value → Bool
  | text _ => true
  | _ => false

def isComparable (a b : Value) : Bool := a.isNumber && b.isNumber || a.isText && b.isText

inductive IsScalar : Value → Prop
  | text {s : String} : IsScalar (.text s)
  | bool {t : Bool} : IsScalar (.bool t)
  | int {n : Int} : IsScalar (.int n)
  | real {x : Binary64} : x.isFinite → IsScalar (.real x)

inductive RanksAt : Value → Rank → Prop
  | number {v : Value} {u : Int} :
    v.isNumber → v.position? = some (.point u) → RanksAt v (.number u)
  | text {s} : RanksAt (.text s) (.text s)

theorem IsScalar.exists_rank (ha : a.IsScalar) (hb : b.IsScalar) (h : a.isComparable b) :
    (∃ x, a.RanksAt x) ∧ ∃ y, b.RanksAt y := by
  have hr {v : Value} (hv : v.IsScalar) (hn : v.isNumber ∨ v.isText) : ∃ x, v.RanksAt x := by
    cases hv
    case text => exact ⟨_, .text⟩
    case bool => simp [isNumber, isText] at hn
    case int n => exact ⟨_, .number rfl rfl⟩
    case real x hx =>
      cases x <;> simp only [Binary64.isFinite, Bool.false_eq_true] at hx
      case finite => exact ⟨_, .number rfl rfl⟩
  obtain ⟨hna, hnb⟩ | ⟨hta, htb⟩ := by simpa [isComparable] using h
  case inl => exact ⟨hr ha (.inl hna), hr hb (.inl hnb)⟩
  case inr => exact ⟨hr ha (.inr hta), hr hb (.inr htb)⟩

theorem isComparable_comm : a.isComparable b = b.isComparable a := by
  simp [isComparable, Bool.and_comm]

theorem isComparable_trans (hab : a.isComparable b) (hbc : b.isComparable c) :
    a.isComparable c := by
  cases a <;> cases b <;> cases c <;> simp_all [isComparable, isNumber, isText]

theorem isComparable_of_holds (h : order.holds a b) : a.isComparable b := by
  cases a <;> cases b <;> simp_all [isComparable, isNumber, isText, Comparison.holds]

namespace RanksAt

theorem holds_iff (ha : a.RanksAt x) (hb : b.RanksAt y) (h : a.isComparable b) :
    order.holds a b ↔ order.Relates x y := by
  cases ha <;> cases hb
  case number.number u hna hua w hnb hwb =>
    rw [Comparison.holds_eq_holdsAt hna hnb hua hwb, Comparison.holdsAt_point,
      Rank.relates_number]
  case number.text u hna _ s => cases a <;> simp_all [isComparable, isNumber, isText]
  case text.number u hnb _ => cases b <;> simp_all [isComparable, isNumber, isText]
  case text.text => rw [Comparison.holds, Comparison.holdsFor_iff, Rank.relates_text]

theorem matchesSame_iff (ha : a.RanksAt x) (hb : b.RanksAt y) (h : a.isComparable b) :
    a.matchesSame b ↔ x = y := by
  cases ha <;> cases hb
  case number.number u hna hua w hnb hwb =>
    have hs : a.matchesSame b = (Position.point u).same (.point w) := by
      cases a <;> simp only [isNumber, Bool.false_eq_true] at hna <;>
        cases b <;> simp only [isNumber, Bool.false_eq_true] at hnb <;>
          simp_all [matchesSame, isBool, same, position?]
    rw [hs, Rank.number_inj, Position.same, beq_iff_eq]
  case number.text u hna _ s => cases a <;> simp_all [isComparable, isNumber, isText]
  case text.number u hnb _ => cases b <;> simp_all [isComparable, isNumber, isText]
  case text.text => simp [matchesSame, isBool, same, Rank.text_inj]

end RanksAt

def worth? : Value → Option ℚ
  | int n => some n
  | real x => if x.isInRange then some x.worth else none
  | _ => none

theorem exists_position_of_worth? {q : ℚ} (h : a.worth? = some q) :
    a.isNumber ∧ ∃ p, a.position? = some p ∧ p.IsAt q := by
  cases a <;> simp only [worth?, reduceCtorEq] at h
  case int n =>
    cases h
    exact ⟨rfl, _, rfl, Position.isAt_ofInt n⟩
  case real x =>
    split at h <;> cases h
    case isTrue.refl hx => exact ⟨rfl, _, rfl, Binary64.isAt_position hx⟩

-- Integers and fractions are compared by what they are worth.
theorem holds_iff_worth {q r : ℚ} (ha : a.worth? = some q) (hb : b.worth? = some r) :
    order.holds a b ↔ order.Relates q r := by
  obtain ⟨hna, p, hp, hq⟩ := exists_position_of_worth? ha
  obtain ⟨hnb, p', hp', hr⟩ := exists_position_of_worth? hb
  rw [Comparison.holds_eq_holdsAt hna hnb hp hp', Comparison.holdsAt_iff hq hr]

end Value

namespace Predicate

variable {path : String} {a b c : Value} {d e : Document} {order : Comparison}

theorem present?_of_isScalar (ha : a.IsScalar) (hd : d.get? path = some a) :
    d.present? path = some a := by
  cases ha <;> simp [Document.present?, hd]

theorem holds_compares (ha : a.IsScalar) (hd : d.get? path = some a) :
    (compares order path b).holds d = order.holds a b := by
  simp [holds, present?_of_isScalar ha hd]

theorem holds_equals (ha : a.IsScalar) (hd : d.get? path = some a) :
    (equals path b).holds d = a.matchesSame b := by
  simp [holds, present?_of_isScalar ha hd]

theorem holds_notEquals (ha : a.IsScalar) (hd : d.get? path = some a) :
    (notEquals path b).holds d = !a.matchesSame b := by
  simp [holds, present?_of_isScalar ha hd]

-- A member of one document against that of another one, as the predicates of their path tell it.
structure Orders (path : String) (d e : Document) (a b : Value) : Prop where
  one :
    [compares .less path b, equals path b, compares .greater path b].countP (·.holds d) = 1
  lessOrEqual :
    (compares .lessOrEqual path b).holds d ↔
      (compares .less path b).holds d ∨ (equals path b).holds d
  greaterOrEqual :
    (compares .greaterOrEqual path b).holds d ↔
      (compares .greater path b).holds d ∨ (equals path b).holds d
  converse : (compares .less path b).holds d ↔ (compares .greater path a).holds e

theorem orders_of_isComparable (ha : a.IsScalar) (hb : b.IsScalar) (hd : d.get? path = some a)
    (he : e.get? path = some b) (h : a.isComparable b) : Orders path d e a b := by
  obtain ⟨⟨x, hx⟩, y, hy⟩ := ha.exists_rank hb h
  have hc (order : Comparison) : (compares order path b).holds d ↔ order.Relates x y := by
    rw [holds_compares ha hd, hx.holds_iff hy h]
  have hr : (compares .greater path a).holds e ↔ x < y := by
    rw [holds_compares hb he, hy.holds_iff hx (Value.isComparable_comm.trans h)]
    rfl
  have hs : (equals path b).holds d ↔ x = y := by
    rw [holds_equals ha hd, hx.matchesSame_iff hy h]
  refine ⟨?one, ?lessOrEqual, ?greaterOrEqual, ?converse⟩
  case one =>
    rw [List.countP_cons, List.countP_cons, List.countP_singleton]
    simp only [hc, hs, Comparison.Relates]
    rcases lt_trichotomy x y with hl | rfl | hg
    case inl => simp [hl, hl.ne, hl.not_gt]
    case inr.inl => simp
    case inr.inr => simp [hg, hg.ne', hg.not_gt]
  case lessOrEqual => rw [hc, hc, hs]; exact le_iff_lt_or_eq
  case greaterOrEqual => rw [hc, hc, hs]; exact le_iff_lt_or_eq.trans (or_congr_right eq_comm)
  case converse => rw [hc, hr]; rfl

theorem holds_compares_trans (ha : a.IsScalar) (hb : b.IsScalar) (hc : c.IsScalar)
    (hd : d.get? path = some a) (he : e.get? path = some b)
    (hab : (compares order path b).holds d) (hbc : (compares order path c).holds e) :
    (compares order path c).holds d := by
  rw [holds_compares ha hd] at hab ⊢
  rw [holds_compares hb he] at hbc
  have hcab := Value.isComparable_of_holds hab
  have hcbc := Value.isComparable_of_holds hbc
  obtain ⟨⟨x, hx⟩, y, hy⟩ := ha.exists_rank hb hcab
  obtain ⟨_, z, hz⟩ := hb.exists_rank hc hcbc
  rw [hx.holds_iff hz (Value.isComparable_trans hcab hcbc)]
  exact ((hx.holds_iff hy hcab).mp hab).trans ((hy.holds_iff hz hcbc).mp hbc)

-- Numbers with numbers and texts with texts are in one order, and nothing else is: numbers are in
-- that of what they are worth, whatever their size, and texts in that of their characters. Equality
-- decides between all values.
theorem compares_consistent (ha : a.IsScalar) (hb : b.IsScalar) (hd : d.get? path = some a)
    (he : e.get? path = some b) :
    (a.isComparable b → Orders path d e a b) ∧
    (¬a.isComparable b → ∀ order, ¬(compares order path b).holds d) ∧
    [equals path b, notEquals path b].countP (·.holds d) = 1 ∧
    (∀ order c, c.IsScalar → (compares order path b).holds d → (compares order path c).holds e →
      (compares order path c).holds d) ∧
    (∀ order, ∀ q ∈ a.worth?, ∀ r ∈ b.worth?,
      ((compares order path b).holds d ↔ order.Relates q r)) ∧
    ∀ order s t, a = .text s → b = .text t →
      ((compares order path b).holds d ↔ order.Relates s t) := by
  refine ⟨orders_of_isComparable ha hb hd he, fun h order ho => ?_, ?_,
    fun order c hc => holds_compares_trans ha hb hc hd he, fun order q hq r hr => ?_,
    fun order s t hs ht => ?_⟩
  case refine_1 => exact h (Value.isComparable_of_holds (holds_compares ha hd ▸ ho))
  case refine_2 =>
    rw [List.countP_cons, List.countP_singleton, holds_equals ha hd, holds_notEquals ha hd]
    cases a.matchesSame b <;> rfl
  case refine_3 => rw [holds_compares ha hd, Value.holds_iff_worth hq hr]
  case refine_4 =>
    subst hs ht
    rw [holds_compares ha hd, Comparison.holds, Comparison.holdsFor_iff]

theorem compares_consistent_large :
    Orders "n" [("n", .int 9007199254740993)] [("n", .real (.finite false (2 ^ 52) 1))]
        (.int 9007199254740993) (.real (.finite false (2 ^ 52) 1)) ∧
      (compares .greater "n" (.real (.finite false (2 ^ 52) 1))).holds
        [("n", .int 9007199254740993)] ∧
      ¬(equals "n" (.real (.finite false (2 ^ 52) 1))).holds [("n", .int 9007199254740993)] := by
  obtain ⟨ho, _, _, _, hw, _⟩ := @compares_consistent "n" (.int 9007199254740993)
    (.real (.finite false (2 ^ 52) 1)) [("n", .int 9007199254740993)]
    [("n", .real (.finite false (2 ^ 52) 1))] .int (.real rfl) rfl rfl
  have ho := ho rfl
  have hg := (hw .greater _ rfl _ rfl).mpr (by norm_num [Comparison.Relates, Binary64.worth])
  refine ⟨ho, hg, fun he => ?_⟩
  have hn := ho.one
  rw [List.countP_cons, List.countP_cons, List.countP_singleton, if_pos he, if_pos hg] at hn
  omega

end Predicate

end EntityCatalog
