import EntityCatalog.Proofs.Settings.Layers

namespace EntityCatalog

section Spelled

variable {α : Type} {l : List (String × α)} {name : String}

def spellings (l : List (String × α)) (name : String) : List (String × α) :=
  l.filter fun m => m.1.lowered == name

-- The value of the last of them.
def spelled? (l : List (String × α)) (name : String) : Option α :=
  (spellings l name).getLast?.map (·.2)

theorem spelled?_cons {m : String × α} :
    spelled? (m :: l) name =
      (spelled? l name).or (if m.1.lowered = name then some m.2 else none) := by
  unfold spelled? spellings
  by_cases hm : m.1.lowered = name
  case neg => simp [hm]
  case pos =>
    simp only [hm, BEq.rfl, List.filter_cons_of_pos, if_true, List.getLast?_cons]
    cases (l.filter fun m => m.1.lowered == name).getLast? <;> simp

end Spelled

namespace Document

variable {d : Document} {key name : String} {v : Value}

theorem filter_set (p : String → Bool) : (d.set name v).filter (fun m => p m.1) =
    if p name then Document.set (d.filter fun m => p m.1) name v else d.filter fun m => p m.1 := by
  have hm (m : String × Value) : (if m.1 == name then (name, v) else m).1 = m.1 := by
    by_cases h : m.1 = name <;> simp [h]
  have hf : (d.map fun m => if m.1 == name then (name, v) else m).filter (fun m => p m.1) =
      (d.filter fun m => p m.1).map fun m => if m.1 == name then (name, v) else m := by
    simp only [List.filter_map, Function.comp_def, hm]
  cases hp : p name
  case true =>
    have hh : Document.has (d.filter fun m => p m.1) name = d.has name := by
      rw [Bool.eq_iff_iff, has_iff_get?, has_iff_get?, get?, List.lookup_filter, hp]
      rfl
    rw [if_pos rfl, set, set, hh]
    split
    case isTrue => exact hf
    case isFalse => simp [List.filter_append, hp]
  case false =>
    rw [set]
    split
    case isFalse => simp [List.filter_append, hp]
    case isTrue =>
      rw [hf, if_neg (by simp)]
      refine (List.map_congr_left fun m hmem => ?_).trans (List.map_id' _)
      have hn : m.1 ≠ name := by
        rintro rfl
        simp [hp] at hmem
      simp [hn]

theorem get?_filter (p : String → Bool) :
    Document.get? (d.filter fun m => p m.1) key = if p key then d.get? key else none :=
  List.lookup_filter ..

theorem filter_over (p : String → Bool) {higher : Document} :
    (higher.over d).filter (fun m => p m.1) =
      Document.over (higher.filter fun m => p m.1) (d.filter fun m => p m.1) := by
  induction higher generalizing d
  case nil => simp [Document.over, Value.membersOver]
  case cons m higher hi =>
    obtain ⟨n, w⟩ := m
    rw [Document.over, Value.membersOver]
    refine hi.trans ?_
    rw [filter_set]
    cases hp : p n
    case false => simp [hp]
    case true =>
      rw [List.filter_cons_of_pos (by simpa using hp)]
      conv_rhs => rw [Document.over, Value.membersOver]
      rw [get?_filter, hp]
      rfl

theorem spelled?_set_of_ne (h : name.lowered ≠ key) :
    spelled? (d.set name v) key = spelled? d key := by
  have hp : (name.lowered == key) = false := by simpa using h
  rw [spelled?, spellings, filter_set (fun n => n.lowered == key), hp]
  rfl

theorem spellings_set (h : name.lowered = key) :
    spellings (d.set name v) key = Document.set (spellings d key) name v := by
  have hp : (name.lowered == key) = true := by simpa using h
  rw [spellings, filter_set (fun n => n.lowered == key), hp]
  rfl

-- What is set is the last of its name, unless there is one after it that is spelled otherwise.
theorem spelled?_set_or : spelled? (d.set name v) key = some v ∨
    spelled? (d.set name v) key = spelled? d key := by
  by_cases h : name.lowered = key
  case neg => exact .inr (spelled?_set_of_ne h)
  case pos =>
    rw [spelled?, spelled?, spellings_set h, set]
    split
    case isFalse => exact .inl (by simp)
    case isTrue =>
      rw [List.getLast?_map]
      cases (spellings d key).getLast?
      case none => exact .inr rfl
      case some m =>
        by_cases hm : m.1 = name
        case pos => exact .inl (by simp [hm])
        case neg => exact .inr (by simp [hm])

variable {higher : Document} (hn : higher.keys.Nodup)
  (hs : ∀ n ∈ higher.keys, n.lowered = key ↔ n = key)

include hn hs

theorem spellings_eq : spellings higher key = ((higher.get? key).map (key, ·)).toList := by
  induction higher
  case nil => rfl
  case cons m higher hi =>
    obtain ⟨n, w⟩ := m
    have ⟨hm, hn⟩ := List.nodup_cons.mp hn
    have ⟨hl, hs⟩ := List.forall_mem_cons.mp hs
    have hi := hi hn hs
    rw [get?_cons]
    by_cases h : n = key
    case pos =>
      subst h
      have hc : Document.get? higher n = none := get?_eq_none_iff.mpr hm
      rw [hc] at hi
      have hb : (n.lowered == n) = true := by simpa using hl
      simp only [spellings, List.filter_cons, hb, if_true]
      rw [← spellings, hi]
      rfl
    case neg =>
      have hb : (n.lowered == key) = false := by simpa using mt hl.mp h
      simp only [spellings, List.filter_cons, hb, Bool.false_eq_true, if_false]
      rw [← spellings, hi, if_neg (Ne.symm h)]

theorem spelled?_eq_get? : spelled? higher key = higher.get? key := by
  rw [spelled?, spellings_eq hn hs]
  cases higher.get? key <;> rfl

theorem spellings_over : spellings (higher.over d) key =
    Document.over ((higher.get? key).map (key, ·)).toList (spellings d key) := by
  rw [← spellings_eq hn hs]
  exact filter_over fun n => n.lowered == key

theorem spelled?_over_of_none (h : higher.get? key = none) :
    spelled? (higher.over d) key = spelled? d key := by
  rw [spelled?, spellings_over hn hs, h]
  rfl

theorem spelled?_over_of_some (hk : key.lowered = key) {x : Value} (h : higher.get? key = some v)
    (hx : Value.merged (d.get? key) (some v) = some x) :
    spelled? (higher.over d) key = spelled? (d.set key x) key := by
  have hg : Document.get? (spellings d key) key = d.get? key := by
    rw [spellings, get?_filter fun n => n.lowered == key]
    simp [hk]
  rw [spelled?, spellings_over hn hs, h, spelled?, spellings_set hk]
  exact congrArg _ (congrArg _ (over_single (hg ▸ hx)))

end Document

end EntityCatalog
