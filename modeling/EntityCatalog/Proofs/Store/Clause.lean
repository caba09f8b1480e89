import EntityCatalog.Store.Clause

namespace EntityCatalog.Clause

variable {a b : Option Bool} {c : Clause} {cs : List Clause} {d : Document}

@[simp]
theorem conj_true_left : conj (some true) b = b := by
  rcases b with _ | _ | _ <;> rfl

@[simp]
theorem conj_true_right : conj a (some true) = a := by
  rcases a with _ | _ | _ <;> rfl

@[simp]
theorem conj_false_right : conj a (some false) = some false := by
  rcases a with _ | _ | _ <;> rfl

@[simp]
theorem disj_false_left : disj (some false) b = b := by
  rcases b with _ | _ | _ <;> rfl

@[simp]
theorem conj_some_some {a b : Bool} : conj (some a) (some b) = some (a && b) := by
  cases a <;> cases b <;> rfl

theorem conj_eq_true_iff : conj a b = some true ↔ a = some true ∧ b = some true := by
  rcases a with _ | _ | _ <;> rcases b with _ | _ | _ <;> simp [conj]

theorem disj_eq_true_iff : disj a b = some true ↔ a = some true ∨ b = some true := by
  rcases a with _ | _ | _ <;> rcases b with _ | _ | _ <;> simp [disj]

theorem truthOfAll_eq_true_iff :
    truthOfAll d cs = some true ↔ ∀ c ∈ cs, truth d c = some true := by
  induction cs
  case nil => simp [truthOfAll]
  case cons hi => simp [truthOfAll, conj_eq_true_iff, hi]

theorem truthOfAny_eq_true_iff :
    truthOfAny d cs = some true ↔ ∃ c ∈ cs, truth d c = some true := by
  induction cs
  case nil => simp [truthOfAny]
  case cons hi => simp [truthOfAny, disj_eq_true_iff, hi]

theorem isConstant_iff {b : Bool} : isConstant b c ↔ c = .constant b := by
  cases c <;> simp [isConstant]
  case constant => exact eq_comm

theorem truthOfAll_of_mem_false (h : .constant false ∈ cs) : truthOfAll d cs = some false := by
  induction cs
  case nil => cases h
  case cons c cs hi =>
    rcases List.mem_cons.mp h with rfl | h
    case inl => rfl
    case inr => rw [truthOfAll, hi h, conj_false_right]

theorem truthOfAny_of_mem_true (h : .constant true ∈ cs) : truthOfAny d cs = some true :=
  truthOfAny_eq_true_iff.mpr ⟨_, h, rfl⟩

theorem truthOfAll_filter :
    truthOfAll d (cs.filter (!isConstant true ·)) = truthOfAll d cs := by
  induction cs
  case nil => rfl
  case cons c cs hi =>
    by_cases h : isConstant true c
    case pos =>
      rw [List.filter_cons_of_neg (by simp [h]), hi, truthOfAll, isConstant_iff.mp h, truth,
        conj_true_left]
    case neg => simp [h, truthOfAll, hi]

theorem truthOfAny_filter :
    truthOfAny d (cs.filter (!isConstant false ·)) = truthOfAny d cs := by
  induction cs
  case nil => rfl
  case cons c cs hi =>
    by_cases h : isConstant false c
    case pos =>
      rw [List.filter_cons_of_neg (by simp [h]), hi, truthOfAny, isConstant_iff.mp h, truth,
        disj_false_left]
    case neg => simp [h, truthOfAny, hi]

-- What lists of clauses that all have to hold, and of which one has to hold, have in common: one
-- constant decides the list, and the other adds nothing to it.
def gathered (b : Bool) (make : List Clause → Clause) (cs : List Clause) : Clause :=
  if cs.any (isConstant b) then .constant b
  else
    match cs.filter (!isConstant (!b) ·) with
    | [] => .constant !b
    | cs => make cs

theorem allOf_eq : allOf cs = gathered false .all cs := rfl

theorem anyOf_eq : anyOf cs = gathered true .any cs := rfl

variable {decisive : Bool} {make : List Clause → Clause}

theorem truth_gathered {truths : List Clause → Option Bool}
    (hd : ∀ {cs}, .constant decisive ∈ cs → truths cs = some decisive)
    (hf : ∀ {cs}, truths (cs.filter (!isConstant (!decisive) ·)) = truths cs)
    (hn : truths [] = some !decisive) (hm : ∀ cs, truth d (make cs) = truths cs) :
    truth d (gathered decisive make cs) = truths cs := by
  unfold gathered
  split
  case isTrue h =>
    have ⟨c, hc, h⟩ := List.any_eq_true.mp h
    exact (hd (isConstant_iff.mp h ▸ hc)).symm
  case isFalse =>
    rw [← hf]
    split
    case h_1 h => rw [h, hn, truth]
    case h_2 => exact hm _

theorem truth_allOf : truth d (allOf cs) = truthOfAll d cs :=
  truth_gathered truthOfAll_of_mem_false truthOfAll_filter rfl fun _ => rfl

theorem truth_anyOf : truth d (anyOf cs) = truthOfAny d cs :=
  truth_gathered truthOfAny_of_mem_true truthOfAny_filter rfl fun _ => rfl

theorem selects_iff : c.selects d ↔ truth d c = some true := by
  simp [selects]

theorem selects_allOf_iff : (allOf cs).selects d ↔ ∀ c ∈ cs, c.selects d := by
  simp [selects_iff, truth_allOf, truthOfAll_eq_true_iff]

theorem selects_anyOf_iff : (anyOf cs).selects d ↔ ∃ c ∈ cs, c.selects d := by
  simp [selects_iff, truth_anyOf, truthOfAny_eq_true_iff]

theorem mem_valuesOfAll_iff {v : Value} : v ∈ valuesOfAll cs ↔ ∃ c ∈ cs, v ∈ c.values := by
  induction cs
  case nil => simp [valuesOfAll]
  case cons hi => simp [valuesOfAll, hi]

theorem mem_values_gathered {v : Value} (hm : ∀ cs, (make cs).values = valuesOfAll cs)
    (h : v ∈ (gathered decisive make cs).values) : ∃ c ∈ cs, v ∈ c.values := by
  unfold gathered at h
  split at h
  case isTrue => simp [values] at h
  case isFalse =>
    split at h
    case h_1 => simp [values] at h
    case h_2 =>
      have ⟨c, hc, hv⟩ := mem_valuesOfAll_iff.mp (hm _ ▸ h)
      exact ⟨c, (List.mem_filter.mp hc).1, hv⟩

theorem mem_values_allOf {v : Value} (h : v ∈ (allOf cs).values) : ∃ c ∈ cs, v ∈ c.values :=
  mem_values_gathered (fun _ => rfl) (allOf_eq ▸ h)

theorem mem_values_anyOf {v : Value} (h : v ∈ (anyOf cs).values) : ∃ c ∈ cs, v ∈ c.values :=
  mem_values_gathered (fun _ => rfl) (anyOf_eq ▸ h)

end EntityCatalog.Clause
