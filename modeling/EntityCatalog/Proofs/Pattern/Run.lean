import EntityCatalog.Pattern.Matcher
import Mathlib

namespace EntityCatalog.Pattern

variable {cs : Array Char} {test : Nat → Bool} {k : Follow} {ns : List Node}
  {m : List (Nat × Nat)} {i : Nat}

def remaining (cs : Array Char) (i : Nat) : List Char := cs.toList.drop i

theorem getElem?_eq_head?_remaining : cs[i]? = (remaining cs i).head? := by
  simp [remaining, List.head?_drop]

theorem remaining_succ : remaining cs (i + 1) = (remaining cs i).tail := by
  simp [remaining]

theorem casing_nil : Flags.casing [] = .exact := rfl

theorem sameLetter_exact {a b : Nat} : Casing.exact.sameLetter a b = (a == b) := by
  simp [Casing.sameLetter, Casing.alike, Casing.fold]
  grind

theorem one_eq : one cs test k ⟨i, m⟩ =
    if (remaining cs i).head?.any (fun c => test c.toNat) then k ⟨i + 1, m⟩ else none := by
  rw [one, getElem?_eq_head?_remaining]
  cases (remaining cs i).head? <;> simp

theorem runAll_literals {l : List Char} :
    runAll cs [] (l.map (fun c => .literal c.toNat) ++ ns) k ⟨i, m⟩ =
      if l <+: remaining cs i then runAll cs [] ns k ⟨i + l.length, m⟩ else none := by
  induction l generalizing i
  case nil => simp
  case cons c l hi =>
    rw [List.map_cons, List.cons_append, runAll, Node.run, one_eq, casing_nil, hi, remaining_succ]
    cases remaining cs i
    case nil => simp
    case cons d t =>
      have hc : c.toNat = d.toNat ↔ c = d := Char.toNat_inj
      simp only [List.head?_cons, Option.any_some, sameLetter_exact, beq_iff_eq, hc,
        List.cons_prefix_cons, List.tail_cons, List.length_cons]
      by_cases h : c = d <;> simp [h, Nat.add_assoc, Nat.add_comm 1]

-- The induction is on the rounds that are left; there are no choices, since the least number of
-- rounds is the greatest one too.
theorem rounds_exactly {n count : Nat} {last : Option Nat} (fuel : Nat) :
    rounds .greedy (count + n) (some (count + n)) (one cs test) k (n + fuel) count last ⟨i, m⟩ =
      if ((remaining cs i).take n).length = n ∧
          ((remaining cs i).take n).all (fun c => test c.toNat) then
        k ⟨i + n, m⟩ else none := by
  induction n generalizing i count last
  case zero => cases fuel <;> simp [rounds]
  case succ n hi =>
    rw [Nat.add_right_comm n 1 fuel, rounds, if_pos (by omega), one_eq,
      show count + (n + 1) = count + 1 + n by omega, hi, remaining_succ]
    cases remaining cs i
    case nil => simp
    case cons c t => by_cases hc : test c.toNat <;> simp [hc, Nat.add_assoc, Nat.add_comm 1]

theorem runAll_loop_set {n : Nat} {negated : Bool} {items : List SetItem} :
    runAll cs [] (.loop .greedy n (some n) [.set negated items] :: ns) k ⟨i, m⟩ =
      if ((remaining cs i).take n).length = n ∧
          ((remaining cs i).take n).all (fun c => inSet [] negated items c.toNat) then
        runAll cs [] ns k ⟨i + n, m⟩ else none := by
  have h := @rounds_exactly cs (inSet [] negated items) (fun t => runAll cs [] ns k t) m i n 0 none
    (cs.size + 2)
  rw [Nat.zero_add] at h
  exact h

theorem lineEnd_holds_iff (h : i ≤ cs.size) :
    Anchor.lineEnd.holds [] cs i ↔ remaining cs i = [] ∨ remaining cs i = ['\n'] := by
  have hl : (remaining cs i).length = cs.size - i := by simp [remaining]
  have h0 : i = cs.size ↔ (remaining cs i).length = 0 := by omega
  have h1 : i + 1 = cs.size ↔ (remaining cs i).length = 1 := by omega
  simp only [Anchor.holds, getElem?_eq_head?_remaining, Bool.or_eq_true, Bool.and_eq_true,
    beq_iff_eq, h0, h1, List.contains_nil, Bool.false_or]
  rcases remaining cs i with _ | ⟨c, _ | ⟨d, t⟩⟩ <;> simp

theorem runAll_lineEnd (h : i ≤ cs.size) :
    runAll cs [] (.anchor .lineEnd :: ns) k ⟨i, m⟩ =
      if remaining cs i = [] ∨ remaining cs i = ['\n'] then runAll cs [] ns k ⟨i, m⟩ else none := by
  simp only [runAll, Node.run, lineEnd_holds_iff h]

theorem foundIn_anchored {s : String} :
    (Program.mk [] (.anchor .lineStart :: ns)).foundIn s =
      (runAll s.toList.toArray [] ns some ⟨0, []⟩).isSome := by
  have hb {c : Option Char} : c.all (Program.mk [] (.anchor .lineStart :: ns)).mayBeginWith := by
    cases c <;> simp [Program.mayBeginWith, leadingSet?]
  have hr (i : Nat) : runAll s.toList.toArray [] (.anchor .lineStart :: ns) some ⟨i, []⟩ =
      if i = 0 then runAll s.toList.toArray [] ns some ⟨i, []⟩ else none := by
    simp [runAll, Node.run, Anchor.holds]
  simp only [Program.foundIn, hb, hr, Bool.true_and]
  rw [Bool.eq_iff_iff, List.any_eq_true]
  constructor
  case mp =>
    rintro ⟨i, _, h⟩
    split at h
    case isTrue hi => exact hi ▸ h
    case isFalse => cases h
  case mpr => exact fun h => ⟨0, by simp, h⟩

end EntityCatalog.Pattern
