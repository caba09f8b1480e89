import EntityCatalog.Proofs.Store.Clause
import EntityCatalog.Store.Tables

namespace EntityCatalog

namespace Clause

-- The truth of a clause where what is unknown stands for a given truth.
def settled (d : Document) (unknown : Bool) (c : Clause) : Bool := (c.truth d).getD unknown

-- There is a test that cannot be made, and nothing before it decides.
inductive Stumbles (d : Document) : Bool → Clause → Prop
  | test {u c} : c.canTest d = false → Stumbles d u c
  | negated {u c} : Stumbles d (!u) c → Stumbles d u (.negated c)
  | all {u c before after} :
    (∀ b ∈ before, b.settled d u ≠ false) → Stumbles d u c →
    Stumbles d u (.all (before ++ c :: after))
  | any {u c before after} :
    (∀ b ∈ before, b.settled d u ≠ true) → Stumbles d u c →
    Stumbles d u (.any (before ++ c :: after))

def StumblesUntil (d : Document) (u decisive : Bool) (cs : List Clause) : Prop :=
  ∃ before c after, cs = before ++ c :: after ∧ (∀ b ∈ before, b.settled d u ≠ decisive) ∧
    c.Stumbles d u

variable {d : Document} {u decisive : Bool} {c : Clause} {cs : List Clause} {path : String}

theorem selects_eq_settled : c.selects d = c.settled d false := by
  rw [selects, settled]
  rcases c.truth d with _ | _ | _ <;> rfl

theorem getD_conj {a b : Option Bool} : (conj a b).getD u = (a.getD u && b.getD u) := by
  rcases a with _ | _ | _ <;> rcases b with _ | _ | _ <;> cases u <;> rfl

theorem getD_disj {a b : Option Bool} : (disj a b).getD u = (a.getD u || b.getD u) := by
  rcases a with _ | _ | _ <;> rcases b with _ | _ | _ <;> cases u <;> rfl

theorem settled_all : (all cs).settled d u = !cs.any (·.settled d u == false) := by
  rw [settled, truth]
  induction cs
  case nil => rfl
  case cons c cs hi => simp [truthOfAll, getD_conj, hi, settled]

theorem settled_any : (any cs).settled d u = cs.any (·.settled d u == true) := by
  rw [settled, truth]
  induction cs
  case nil => rfl
  case cons c cs hi => simp [truthOfAny, getD_disj, hi, settled]

theorem settled_negated : (negated c).settled d u = !c.settled d (!u) := by
  rw [settled, settled, truth]
  rcases c.truth d with _ | _ | _ <;> simp

theorem not_stumblesUntil_nil : ¬StumblesUntil d u decisive [] := by
  rintro ⟨before, c, after, h, _⟩
  cases before <;> cases h

theorem stumblesUntil_cons_iff : StumblesUntil d u decisive (c :: cs) ↔
    c.Stumbles d u ∨ c.settled d u ≠ decisive ∧ StumblesUntil d u decisive cs := by
  constructor
  case mp =>
    rintro ⟨_ | ⟨b, before⟩, c', after, h, hb, hs⟩ <;> cases h
    case nil => exact .inl hs
    case cons =>
      have ⟨hc, hb⟩ := List.forall_mem_cons.mp hb
      exact .inr ⟨hc, before, c', after, rfl, hb, hs⟩
  case mpr =>
    rintro (hs | ⟨hc, before, c', after, rfl, hb, hs⟩)
    case inl => exact ⟨[], c, cs, rfl, nofun, hs⟩
    case inr => exact ⟨c :: before, c', after, rfl, List.forall_mem_cons.mpr ⟨hc, hb⟩, hs⟩

theorem stumbles_all_iff : (all cs).Stumbles d u ↔ StumblesUntil d u false cs := by
  constructor
  case mp =>
    intro h
    cases h
    case test h => cases h
    case all hb hs => exact ⟨_, _, _, rfl, hb, hs⟩
  case mpr => rintro ⟨_, _, _, rfl, hb, hs⟩; exact .all hb hs

theorem stumbles_any_iff : (any cs).Stumbles d u ↔ StumblesUntil d u true cs := by
  constructor
  case mp =>
    intro h
    cases h
    case test h => cases h
    case any hb hs => exact ⟨_, _, _, rfl, hb, hs⟩
  case mpr => rintro ⟨_, _, _, rfl, hb, hs⟩; exact .any hb hs

theorem stumbles_negated_iff : (negated c).Stumbles d u ↔ c.Stumbles d (!u) := by
  constructor
  case mp =>
    intro h
    cases h
    case test h => cases h
    case negated h => exact h
  case mpr => exact .negated

-- Either all tests that are needed can be made, and the truth is found, or there is none.
inductive ComesTo (stumbles : Prop) (b : Bool) : Except Failure Bool → Prop
  | found : ¬stumbles → ComesTo stumbles b (.ok b)
  | none : stumbles → ComesTo stumbles b (.error .unreadable)

theorem comesTo_test (h : ∀ u, c.Stumbles d u → c.canTest d = false) :
    ComesTo (c.Stumbles d u) (c.settled d u)
      (if c.canTest d then .ok ((c.truth d).getD u) else .error .unreadable) := by
  split
  case isTrue ht => exact .found fun hs => by simp [h u hs] at ht
  case isFalse hf => exact .none (.test (by simpa using hf))

mutual

theorem evaluate_comesTo (d : Document) (u : Bool) :
    (c : Clause) → ComesTo (c.Stumbles d u) (c.settled d u) (c.evaluate d u)
  | .all cs => by
    rw [evaluate, stumbles_all_iff, settled_all]
    simpa using evaluateUntil_comesTo d u false cs
  | .any cs => by
    rw [evaluate, stumbles_any_iff, settled_any]
    simpa using evaluateUntil_comesTo d u true cs
  | .negated c => by
    rw [evaluate, stumbles_negated_iff, settled_negated]
    have h := evaluate_comesTo d (!u) c
    generalize evaluate d (!u) c = r at h ⊢
    cases h
    case found h => exact .found h
    case none h => exact .none h
  | .constant b => .found (by rintro ⟨h⟩; cases h)
  | .isKind .. | .equals .. | .compares .. | .like .. | .isNull _ | .isPresent _ =>
    comesTo_test (by rintro u ⟨h⟩; exact h)

theorem evaluateUntil_comesTo (d : Document) (u decisive : Bool) :
    (cs : List Clause) → ComesTo (StumblesUntil d u decisive cs)
      (decisive == cs.any (·.settled d u == decisive)) (evaluateUntil d u decisive cs)
  | [] => by
    have hn : (decisive == ([] : List Clause).any (·.settled d u == decisive)) = !decisive := by
      cases decisive <;> rfl
    rw [hn]
    exact .found not_stumblesUntil_nil
  | c :: cs => by
    rw [evaluateUntil, stumblesUntil_cons_iff, List.any_cons]
    have hc := evaluate_comesTo d u c
    generalize evaluate d u c = r at hc ⊢
    cases hc
    case none h => exact .none (.inl h)
    case found h =>
      by_cases hd : c.settled d u = decisive
      case pos => simpa [hd, h, bind, Except.bind, pure, Except.pure] using .found (by simp)
      case neg =>
        have hb : (c.settled d u == decisive) = false := beq_false_of_ne hd
        simpa [hd, hb, h, bind, Except.bind] using evaluateUntil_comesTo d u decisive cs

end

theorem stumbles_iff : c.Stumbles d u ↔ (c.evaluate d u).isOk = false := by
  have h := evaluate_comesTo d u c
  generalize evaluate d u c = r at h ⊢
  cases h
  case found h => simp [h, Except.isOk, Except.toBool]
  case none h => simp [h, Except.isOk, Except.toBool]

instance : Decidable (c.Stumbles d u) := decidable_of_iff _ stumbles_iff.symm

end Clause

namespace Tables

variable {c : Clause} {rows : List RecordRow}

theorem selected_eq : selected c rows =
    if ∃ r ∈ rows, c.Stumbles r.data false then .error .unreadable
    else .ok (rows.filter (c.selects ·.data)) := by
  induction rows
  case nil => rfl
  case cons r rows hi =>
    rw [selected, hi]
    have h := Clause.evaluate_comesTo r.data false c
    generalize c.evaluate r.data false = o at h ⊢
    cases h
    case none h => simp [h, bind, Except.bind]
    case found h =>
      by_cases hr : ∃ r ∈ rows, c.Stumbles r.data false
      case pos => simp [h, hr, bind, Except.bind]
      case neg =>
        have hc : ¬∃ q ∈ r :: rows, c.Stumbles q.data false := by
          rintro ⟨q, hq, hs⟩
          rcases List.mem_cons.mp hq with rfl | hq
          case inl => exact h hs
          case inr => exact hr ⟨q, hq, hs⟩
        rw [if_neg hr, if_neg hc, List.filter_cons, Clause.selects_eq_settled]
        rfl

end Tables

end EntityCatalog
