import EntityCatalog.Proofs.Lookup
import EntityCatalog.Value

namespace EntityCatalog.Document

variable {d changes : Document} {key k : String} {v : Value}

theorem get?_cons {n : String} {w : Value} :
    Document.get? ((n, w) :: d) k = if k = n then some w else d.get? k := by
  by_cases h : k = n
  case pos => simp [get?, h]
  case neg =>
    have hb : (k == n) = false := by simpa using h
    simp [get?, List.lookup_cons, hb, h]

theorem get?_eq_none_iff : d.get? key = none ↔ key ∉ d.keys := by
  simp only [get?, List.lookup_eq_none_iff, bne_iff_ne, keys, List.mem_map, not_exists, not_and]
  exact ⟨fun h m hm he => h m hm he.symm, fun h m hm he => h m hm he.symm⟩

theorem has_iff_mem_keys : d.has key ↔ key ∈ d.keys := by
  simp [has, keys]

theorem has_iff_get? : d.has key ↔ ∃ v, d.get? key = some v := by
  rw [← Option.isSome_iff_exists, get?, List.lookup_isSome_iff, has, List.any_eq_true]
  simp only [BEq.comm]

theorem mem_of_get? (h : d.get? key = some v) : (key, v) ∈ d := by
  have ⟨l, r, hd, _⟩ := List.lookup_eq_some_iff.mp h
  simp [hd]

theorem get?_of_mem (hd : d.keys.Nodup) (h : (key, v) ∈ d) : d.get? key = some v := by
  induction d
  case nil => cases h
  case cons m d hi =>
    obtain ⟨n, w⟩ := m
    have ⟨hn, hd⟩ := List.nodup_cons.mp hd
    rw [get?_cons]
    rcases List.mem_cons.mp h with he | hm
    case inl => cases he; simp
    case inr =>
      have hk : key ≠ n := by
        rintro rfl
        exact hn (List.mem_map.mpr ⟨_, hm, rfl⟩)
      rw [if_neg hk, hi hd hm]

theorem get?_set : (d.set key v).get? k = if k = key then some v else d.get? k := by
  have h := List.lookup_set d key k v
  have hs : d.set key v =
      if d.any (·.1 == key) then d.map fun m => if m.1 == key then (key, v) else m
      else d ++ [(key, v)] := rfl
  rw [get?, hs, h]
  simp [get?]

theorem has_set_self : (d.set key v).has key :=
  has_iff_get?.mpr ⟨v, by rw [get?_set, if_pos rfl]⟩

theorem has_set_of_has (h : d.has k) : (d.set key v).has k := by
  have ⟨w, hw⟩ := has_iff_get?.mp h
  rw [has_iff_get?, get?_set]
  split
  case isTrue => exact ⟨v, rfl⟩
  case isFalse => exact ⟨w, hw⟩

theorem keys_set_of_has (h : d.has key) : (d.set key v).keys = d.keys := by
  simp only [set, h, if_true, keys, List.map_map]
  refine List.map_congr_left fun m _ => ?_
  by_cases hm : m.1 = key <;> simp [hm]

theorem keys_set_of_not_has (h : d.has key = false) : (d.set key v).keys = d.keys ++ [key] := by
  simp [set, h, keys]

theorem mem_keys_set : k ∈ (d.set key v).keys ↔ k = key ∨ k ∈ d.keys := by
  simp only [← has_iff_mem_keys, has_iff_get?, get?_set]
  by_cases hk : k = key <;> simp [hk]

theorem nodup_keys_set (h : d.keys.Nodup) : (d.set key v).keys.Nodup := by
  cases hk : d.has key
  case true => rwa [keys_set_of_has hk]
  case false =>
    rw [keys_set_of_not_has hk, List.nodup_append]
    refine ⟨h, by simp, ?_⟩
    rintro k hm _ hs rfl
    rw [List.mem_singleton.mp hs, ← has_iff_mem_keys, hk] at hm
    cases hm

theorem nodup_keys_merge (h : d.keys.Nodup) : (d.merge changes).keys.Nodup := by
  induction changes generalizing d
  case nil => exact h
  case cons m changes hi => exact hi (nodup_keys_set h)

theorem has_merge_of_has (h : d.has key) : (d.merge changes).has key := by
  induction changes generalizing d
  case nil => exact h
  case cons m changes hi => exact hi (has_set_of_has h)

theorem get?_merge (h : changes.keys.Nodup) :
    (d.merge changes).get? k = (changes.get? k).or (d.get? k) := by
  induction changes generalizing d
  case nil => simp [merge, get?]
  case cons m changes hi =>
    obtain ⟨n, w⟩ := m
    have ⟨hn, h⟩ := List.nodup_cons.mp h
    change ((d.set n w).merge changes).get? k = _
    rw [hi h, get?_set, get?_cons]
    by_cases hk : k = n
    case pos =>
      subst hk
      have hc : Document.get? changes k = none := get?_eq_none_iff.mpr hn
      simp [hc]
    case neg => simp [hk]

-- One document over another: its values in place of the others, and what is left of it after them.
def override (d changes : Document) : Document :=
  (d.map fun m => (m.1, (changes.get? m.1).getD m.2)) ++ changes.filter fun m => !d.has m.1

theorem merge_eq_override (h : changes.keys.Nodup) : d.merge changes = d.override changes := by
  induction changes generalizing d
  case nil => simp [merge, override, get?]
  case cons m changes hi =>
    obtain ⟨n, w⟩ := m
    have ⟨hn, h⟩ := List.nodup_cons.mp h
    have hc : Document.get? changes n = none := get?_eq_none_iff.mpr hn
    change (d.set n w).merge changes = _
    rw [hi h, override, override]
    cases hd : d.has n
    case true =>
      have hs : d.set n w = d.map fun m => if m.1 == n then (n, w) else m := by simp [set, hd]
      have hh (k : String) : (d.set n w).has k = d.has k := by
        rw [Bool.eq_iff_iff, has_iff_mem_keys, has_iff_mem_keys, keys_set_of_has hd]
      simp only [hh]
      simp only [hs, List.map_map, List.filter_cons, hd, Bool.not_true, Bool.false_eq_true,
        if_false]
      congr 1
      refine List.map_congr_left fun m _ => ?_
      by_cases hm : m.1 = n <;> simp [hm, hc, get?_cons]
    case false =>
      have hs : d.set n w = d ++ [(n, w)] := by simp [set, hd]
      have hf : changes.filter (fun m => !(d.set n w).has m.1) =
          changes.filter fun m => !d.has m.1 := by
        refine List.filter_congr fun m hm => ?_
        have hmn : m.1 ≠ n := fun he => hn (List.mem_map.mpr ⟨m, hm, he⟩)
        simp [hs, has, Ne.symm hmn]
      have hm : d.map (fun m => (m.1, (Document.get? ((n, w) :: changes) m.1).getD m.2)) =
          d.map fun m => (m.1, (Document.get? changes m.1).getD m.2) := by
        refine List.map_congr_left fun m hm => ?_
        have hmn : m.1 ≠ n := by
          rintro rfl
          rw [Bool.eq_false_iff, ne_eq, has_iff_mem_keys] at hd
          exact hd (List.mem_map.mpr ⟨m, hm, rfl⟩)
        simp [get?_cons, hmn]
      rw [hf, hm, hs]
      simp [hc, hd]

end EntityCatalog.Document
