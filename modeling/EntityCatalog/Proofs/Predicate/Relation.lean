import EntityCatalog.Predicate.Basic
import EntityCatalog.Proofs.Numeric.Integer
import Mathlib

namespace EntityCatalog

def Value.isNumber : Value → Bool
  | int _ | real _ => true
  | _ => false

namespace Comparison

def Relates {α : Type} [LT α] [LE α] (c : Comparison) (a b : α) : Prop :=
  match c with
  | less => a < b
  | lessOrEqual => a ≤ b
  | greater => b < a
  | greaterOrEqual => b ≤ a

variable {order : Comparison} {a b : Value} {p r : Position}

theorem holdsAt_iff {x y : ℚ} (hp : p.IsAt x) (hr : r.IsAt y) :
    order.holdsAt p r ↔ order.Relates x y := by
  cases order
  case less => exact hp.lt_iff hr
  case lessOrEqual => exact hp.le_iff hr
  case greater => exact hr.lt_iff hp
  case greaterOrEqual => exact hr.le_iff hp

theorem holds_eq_holdsAt (hna : a.isNumber) (hnb : b.isNumber) (ha : a.position? = some p)
    (hb : b.position? = some r) : order.holds a b = order.holdsAt p r := by
  cases a <;> simp only [Value.isNumber, Bool.false_eq_true] at hna <;>
    cases b <;> simp only [Value.isNumber, Bool.false_eq_true] at hnb <;>
      simp [holds, ha, hb]

theorem relates_intCast {m n : Int} : order.Relates (m : ℚ) n ↔ order.Relates m n := by
  cases order <;> simp [Relates]

end Comparison

-- A number that is worth an integer.
inductive Value.IsWorth : Value → Int → Prop
  | int {i} : IsWorth (.int i) i
  | real {x : Binary64} {i : Int} : x.isInRange → x.worth = i → IsWorth (.real x) i

namespace Value.IsWorth

variable {v : Value} {i m : Int}

theorem isNumber (h : v.IsWorth i) : v.isNumber := by
  cases h <;> rfl

theorem exists_position (h : v.IsWorth i) : ∃ p, v.position? = some p ∧ p.IsAt i := by
  cases h
  case int => exact ⟨_, rfl, Position.isAt_ofInt i⟩
  case real x hx hw => exact ⟨_, rfl, hw ▸ Binary64.isAt_position hx⟩

theorem matchesSame_iff (h : v.IsWorth i) : (Value.int m).matchesSame v ↔ m = i := by
  obtain ⟨p, hp, hi⟩ := h.exists_position
  have hb : (Value.int m).isBool == v.isBool := by cases h <;> rfl
  rw [matchesSame, hb, Bool.true_and, same, hp]
  exact ((Position.isAt_ofInt m).same_iff hi).trans Int.cast_inj

theorem holds_iff {order : Comparison} (h : v.IsWorth i) :
    order.holds (.int m) v ↔ order.Relates m i := by
  obtain ⟨p, hp, hi⟩ := h.exists_position
  rw [Comparison.holds_eq_holdsAt rfl h.isNumber rfl hp,
    Comparison.holdsAt_iff (Position.isAt_ofInt m) hi, Comparison.relates_intCast]

end Value.IsWorth

end EntityCatalog
