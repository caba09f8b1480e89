import EntityCatalog.Proofs.Validation.Generate
import EntityCatalog.Proofs.Value.Document

theorem List.filterMap_map_sublist {α β γ : Type} {l : List α} {g : α → Option β} {j : α → γ}
    {k : β → γ} (h : ∀ a ∈ l, ∀ b, g a = some b → k b = j a) :
    ((l.filterMap g).map k).Sublist (l.map j) := by
  induction l
  case nil => exact .slnil
  case cons a l hi =>
    have ⟨ha, hl⟩ := List.forall_mem_cons.mp h
    cases hg : g a
    case none => simpa [hg] using (hi hl).cons (j a)
    case some b => simpa [hg, ha b hg] using hi hl

namespace EntityCatalog

namespace FieldRule

def taken? (r : FieldRule) (extent : Extent) (payload : Document) : Option Value :=
  match r.verdict? extent payload with
  | some (.taken w) => some w
  | _ => none

theorem taken?_eq_some_iff {r : FieldRule} {extent : Extent} {payload : Document} {w : Value} :
    r.taken? extent payload = some w ↔
      ∃ u, payload.get? r.name = some u ∧ r.check u = .taken w := by
  unfold taken? verdict?
  cases payload.get? r.name
  case none => split <;> simp_all
  case some u => cases hc : r.check u <;> simp [hc]

end FieldRule

namespace Validator

variable {v : Validator} {extent : Extent} {d out : Document} {fs : List Field} {data : Value}
  {key : String} {w : Value}

theorem taken_of_clean {vs : List (String × Verdict)} (ho : overflows vs = false)
    (hp : problemsOf vs = []) {x : String × Verdict} (hx : x ∈ vs) : ∃ w, x.2 = .taken w := by
  obtain ⟨n, verdict⟩ := x
  cases verdict
  case taken w => exact ⟨w, rfl⟩
  case refused f => simpa using List.filterMap_eq_nil_iff.mp hp _ hx
  case overflow => simpa using List.any_eq_false.mp ho _ hx

theorem takenOf_verdicts :
    takenOf (v.verdicts extent d) =
      v.rules.filterMap fun r => (r.taken? extent (v.payload extent d)).map (r.name, ·) := by
  simp only [takenOf, verdicts, List.filterMap_filterMap]
  refine List.filterMap_congr fun r _ => ?_
  cases h : r.verdict? extent (v.payload extent d)
  case none => simp [FieldRule.taken?, h]
  case some x => cases x <;> simp [FieldRule.taken?, h]

theorem mem_verdicts {n : String} {x : Verdict} :
    (n, x) ∈ v.verdicts extent d ↔
      ∃ r ∈ v.rules, r.name = n ∧ r.verdict? extent (v.payload extent d) = some x := by
  simp only [verdicts, List.mem_filterMap, Option.map_eq_some_iff, Prod.mk.injEq]
  constructor
  case mp => exact fun ⟨r, hr, y, hy, hn, hx⟩ => ⟨r, hr, hn, hx ▸ hy⟩
  case mpr => exact fun ⟨r, hr, hn, hx⟩ => ⟨r, hr, x, hx, hn, rfl⟩

theorem applyObject_eq_ok_iff :
    v.applyObject extent d = .ok out ↔
      (∀ r ∈ v.rules, ∀ x, r.verdict? extent (v.payload extent d) = some x → ∃ w, x = .taken w) ∧
        out = v.rules.filterMap fun r =>
          (r.taken? extent (v.payload extent d)).map (r.name, ·) := by
  rw [← takenOf_verdicts]
  unfold applyObject
  dsimp only
  constructor
  case mp =>
    intro h
    split at h <;> try contradiction
    case isFalse ho =>
      split at h <;> cases h
      case h_1 hp =>
        refine ⟨fun r hr x hx => ?_, rfl⟩
        exact taken_of_clean (by simpa using ho) hp (mem_verdicts.mpr ⟨r, hr, rfl, hx⟩)
  case mpr =>
    intro ⟨h, hd⟩
    have ht : ∀ x ∈ v.verdicts extent d, ∃ w, x.2 = .taken w := by
      intro ⟨n, x⟩ hx
      have ⟨r, hr, _, hx⟩ := mem_verdicts.mp hx
      exact h r hr x hx
    have ho : overflows (v.verdicts extent d) = false := by
      refine List.any_eq_false.mpr fun x hx => ?_
      have ⟨w, hw⟩ := ht x hx
      simp [hw]
    have hp : problemsOf (v.verdicts extent d) = [] := by
      refine List.filterMap_eq_nil_iff.mpr fun x hx => ?_
      have ⟨w, hw⟩ := ht x hx
      simp [hw]
    simp [ho, hp, hd]

theorem apply_eq_ok_iff :
    v.apply extent data = .ok out ↔ ∃ d, data = .object d ∧ v.applyObject extent d = .ok out := by
  cases data <;> simp [apply]

theorem nodup_names (hf : Field.AreAccepted fs) (hv : generate fs = .ok v) :
    (v.rules.map (·.name)).Nodup :=
  names_of_isOf (rules_of_generate hf hv) ▸ hf.names

-- Each member of the stored form is what one rule takes.
theorem mem_of_applyObject (h : v.applyObject extent d = .ok out) :
    (key, w) ∈ out ↔
      ∃ r ∈ v.rules, r.name = key ∧ r.taken? extent (v.payload extent d) = some w := by
  rw [(applyObject_eq_ok_iff.mp h).2]
  simp only [List.mem_filterMap, Option.map_eq_some_iff, Prod.mk.injEq]
  constructor
  case mp => exact fun ⟨r, hr, y, hy, hn, hw⟩ => ⟨r, hr, hn, hw ▸ hy⟩
  case mpr => exact fun ⟨r, hr, hn, hw⟩ => ⟨r, hr, w, hw, hn, rfl⟩

theorem keys_sublist (h : v.applyObject extent d = .ok out) :
    out.keys.Sublist (v.rules.map (·.name)) := by
  rw [(applyObject_eq_ok_iff.mp h).2]
  refine List.filterMap_map_sublist fun r _ x hx => ?_
  obtain ⟨_, _, rfl⟩ := Option.map_eq_some_iff.mp hx
  rfl

theorem nodup_keys_of_applyObject (hn : (v.rules.map (·.name)).Nodup)
    (h : v.applyObject extent d = .ok out) : out.keys.Nodup :=
  hn.sublist (keys_sublist h)

theorem nodup_keys_of_apply (hf : Field.AreAccepted fs) (hv : generate fs = .ok v)
    (h : v.apply extent data = .ok out) : out.keys.Nodup := by
  have ⟨_, _, h⟩ := apply_eq_ok_iff.mp h
  exact nodup_keys_of_applyObject (nodup_names hf hv) h

end Validator

end EntityCatalog
