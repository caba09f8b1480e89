import EntityCatalog.Value.Plain

namespace EntityCatalog

theorem Position.ofInt_same_ofInt {m n : Int} : (ofInt m).same (ofInt n) = (m == n) := by
  have h (k : Nat) : Int.pow 2 k ≠ 0 := by
    induction k <;> simp_all [Int.pow, Int.pow_succ]
  change (m * Int.pow 2 1074 == n * Int.pow 2 1074) = (m == n)
  rw [Bool.eq_iff_iff, beq_iff_eq, beq_iff_eq, Int.mul_eq_mul_right_iff (h _)]

theorem Position.same_iff {p q : Position} : p.same q ↔ p = q ∧ p ≠ nowhere := by
  cases p <;> cases q <;> simp [Position.same]

namespace Value

def ofOption {α : Type} (wrap : α → Value) : Option α → Value
  | some a => wrap a
  | none => null

theorem eq_of_same_int {x y : Option Int} (h : same (ofOption int x) (ofOption int y)) :
    x = y := by
  cases x <;> cases y <;> simp_all [ofOption, same, position?, Position.ofInt_same_ofInt]

theorem eq_of_same_text {x y : Option String} (h : same (ofOption text x) (ofOption text y)) :
    x = y := by
  cases x <;> cases y <;> simp_all [ofOption, same]

theorem position_eq_of_same_real {x y : Option Binary64}
    (h : same (ofOption real x) (ofOption real y)) :
    x.map (·.position) = y.map (·.position) := by
  cases x <;> cases y <;> simp_all [ofOption, same, position?, Position.same_iff]

section Texts

variable (ofDate : Date → String) (ofMoment : Moment → String)

mutual

theorem withTexts_withTexts : (v : Value) →
    withTexts ofDate ofMoment (withTexts ofDate ofMoment v) = withTexts ofDate ofMoment v
  | .null | .bool _ | .int _ | .real _ | .text _ | .date _ | .moment _ => by simp [withTexts]
  | .list vs => by simp [withTexts, itemsWithTexts_itemsWithTexts vs]
  | .object ms => by simp [withTexts, membersWithTexts_membersWithTexts ms]

theorem itemsWithTexts_itemsWithTexts : (vs : List Value) →
    itemsWithTexts ofDate ofMoment (itemsWithTexts ofDate ofMoment vs) =
      itemsWithTexts ofDate ofMoment vs
  | [] => rfl
  | v :: vs => by
    simp [itemsWithTexts, withTexts_withTexts v, itemsWithTexts_itemsWithTexts vs]

theorem membersWithTexts_membersWithTexts : (ms : List (String × Value)) →
    membersWithTexts ofDate ofMoment (membersWithTexts ofDate ofMoment ms) =
      membersWithTexts ofDate ofMoment ms
  | [] => rfl
  | (k, v) :: ms => by
    simp [membersWithTexts, withTexts_withTexts v, membersWithTexts_membersWithTexts ms]

end

theorem withTexts_of_lookup {k : String} {v : Value} : {ms : List (String × Value)} →
    membersWithTexts ofDate ofMoment ms = ms → ms.lookup k = some v →
    withTexts ofDate ofMoment v = v
  | (l, w) :: ms, hp, h => by
    simp only [membersWithTexts, List.cons.injEq, Prod.mk.injEq, true_and] at hp
    rw [List.lookup_cons] at h
    split at h
    case h_1 => exact Option.some.inj h ▸ hp.1
    case h_2 => exact withTexts_of_lookup hp.2 h

mutual

-- The induction is on the first value: items and members go along in pairs, and a date or a moment
-- on the left has one on the right, which is not plain.
theorem withTexts_of_same : (v w : Value) → v.same w → withTexts ofDate ofMoment w = w →
    withTexts ofDate ofMoment v = v
  | .null, _, _, _ | .bool _, _, _, _ | .int _, _, _, _ | .real _, _, _, _ | .text _, _, _, _ => by
    simp [withTexts]
  | .date _, w, h, hw | .moment _, w, h, hw => by cases w <;> simp_all [same, withTexts]
  | .list vs, w, h, hw => by
    cases w <;> simp only [same, Bool.false_eq_true] at h
    case list ws =>
      simp only [withTexts, list.injEq] at hw ⊢
      exact itemsWithTexts_of_same vs ws h hw
  | .object ms, w, h, hw => by
    cases w <;> simp only [same, Bool.false_eq_true, Bool.and_eq_true] at h
    case object ns =>
      simp only [withTexts, object.injEq] at hw ⊢
      exact membersWithTexts_of_same ms ns h.2 hw

theorem itemsWithTexts_of_same : (vs ws : List Value) → sameItems vs ws →
    itemsWithTexts ofDate ofMoment ws = ws → itemsWithTexts ofDate ofMoment vs = vs
  | [], _, _, _ => rfl
  | v :: vs, ws, h, hw => by
    cases ws <;> simp only [sameItems, Bool.false_eq_true, Bool.and_eq_true] at h
    case cons w ws =>
      simp only [itemsWithTexts, List.cons.injEq] at hw ⊢
      exact ⟨withTexts_of_same v w h.1 hw.1, itemsWithTexts_of_same vs ws h.2 hw.2⟩

theorem membersWithTexts_of_same : (ms ns : List (String × Value)) → sameMembers ms ns →
    membersWithTexts ofDate ofMoment ns = ns → membersWithTexts ofDate ofMoment ms = ms
  | [], _, _, _ => rfl
  | (k, v) :: ms, ns, h, hn => by
    simp only [sameMembers, Bool.and_eq_true] at h
    simp only [membersWithTexts, List.cons.injEq, Prod.mk.injEq, true_and]
    refine ⟨?_, membersWithTexts_of_same ms ns h.2 hn⟩
    cases hl : ns.lookup k
    case none => simp [hl] at h
    case some w =>
      have hs : v.same w := by simpa [hl] using h.1
      exact withTexts_of_same v w hs (withTexts_of_lookup ofDate ofMoment hn hl)

end

end Texts

@[simp] theorem plain_plain (v : Value) : v.plain.plain = v.plain := withTexts_withTexts _ _ v

-- A value that documents can hold as it is: there are no dates and no moments in it.
def IsPlain (v : Value) : Prop := v.plain = v

theorem isPlain_of_get? {ms : Document} (h : (object ms).IsPlain) {key : String} {v : Value}
    (hv : ms.get? key = some v) : v.IsPlain := by
  simp only [IsPlain, plain, withTexts, object.injEq] at h
  exact withTexts_of_lookup _ _ h hv

theorem plain_eq_of_same_plain {v : Value} (h : v.same v.plain) : v.plain = v :=
  withTexts_of_same _ _ v v.plain h v.plain_plain

end Value

end EntityCatalog
