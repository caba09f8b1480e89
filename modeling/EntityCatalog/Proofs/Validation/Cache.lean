import EntityCatalog.Proofs.Store.Integrity
import EntityCatalog.Proofs.Validation.Generate
import EntityCatalog.Validation.Cache

namespace EntityCatalog

theorem EntityKey.and_eq_iff {k : EntityKey} {scope name : String} :
    k.scope = scope ∧ k.name = name ↔ k = ⟨scope, name⟩ := by
  cases k
  simp

namespace Validator

variable {v : Validator} {fs gs : List Field}

structure IsKeptFor (v : Validator) (fs : List Field) : Prop where
  accepted  : Field.AreAccepted v.fields
  generated : generate v.fields = .ok v
  exact     : Field.sameAll v.fields fs → v.fields = fs

theorem isKeptFor_of_generate (hf : Field.AreAccepted fs) (h : generate fs = .ok v) :
    v.IsKeptFor (fs.map Field.stored) := by
  have he := fields_of_generate h
  subst he
  exact ⟨hf, h, fun hs => (Field.stored_eq_of_sameAll hs).symm⟩

theorem isKeptFor_self (hf : Field.AreAccepted fs) (h : generate fs = .ok v) : v.IsKeptFor fs := by
  have he := fields_of_generate h
  subst he
  exact ⟨hf, h, fun _ => rfl⟩

-- If there is no validator for new fields, then the one before differs from them.
theorem IsKeptFor.of_not_generate (hv : v.IsKeptFor fs) (hg : Field.AreAccepted gs)
    (h : ¬∃ w, generate gs = .ok w) : v.IsKeptFor (gs.map Field.stored) where
  accepted  := hv.accepted
  generated := hv.generated
  exact     := fun hs => absurd ((exists_generate_stored_iff hg).mp
    (exists_generate_of_sameAll hv.accepted hg.stored hs ⟨v, hv.generated⟩)) h

end Validator

namespace ValidatorCache

variable {c : ValidatorCache} {t t' : Tables} {key k : EntityKey} {v : Validator} {e : Entity}
  {fs : List Field}

theorem get?_insert : (c.insert key v).get? k = if k = key then some v else c.get? k := by
  have hi : (c.insert key v).entries =
      if c.entries.any (·.1 == key) then c.entries.map fun e => if e.1 == key then (key, v) else e
      else c.entries ++ [(key, v)] := by
    unfold insert contains
    split <;> rfl
  rw [get?, hi, List.lookup_set]
  simp [get?]

theorem get?_erase : (c.erase key).get? k = if k = key then none else c.get? k := by
  have h := List.lookup_filter c.entries k (· != key)
  rw [get?, erase, h]
  simp [get?]

theorem getOrCreate_eq (h : ∀ v, c.get? key = some v → v.IsKeptFor fs) :
    (∃ f, Validator.generate fs = .error f ∧ c.getOrCreate key fs = .error f) ∨
      ∃ v c', Validator.generate fs = .ok v ∧ c.getOrCreate key fs = .ok (v, c') ∧
        (c' = c ∨ c' = c.insert key v) := by
  have hput : (∃ f, Validator.generate fs = .error f ∧ c.put key fs = .error f) ∨
      ∃ v, Validator.generate fs = .ok v ∧ c.put key fs = .ok (v, c.insert key v) := by
    cases hg : Validator.generate fs <;> simp [put, hg, bind, Except.bind]
  unfold getOrCreate
  cases hk : c.get? key
  case none =>
    rcases hput with ⟨f, hg, hp⟩ | ⟨v, hg, hp⟩
    case inl => exact .inl ⟨f, hg, hp⟩
    case inr => exact .inr ⟨v, _, hg, hp, .inr rfl⟩
  case some w =>
    have hw := h w hk
    by_cases hs : Field.sameAll w.fields fs
    case pos =>
      have he := hw.exact hs
      exact .inr ⟨w, c, he ▸ hw.generated, by simp [hs], .inl rfl⟩
    case neg =>
      simp only [hs, Bool.false_eq_true, if_false]
      rcases hput with ⟨f, hg, hp⟩ | ⟨v, hg, hp⟩
      case inl => exact .inl ⟨f, hg, hp⟩
      case inr => exact .inr ⟨v, _, hg, hp, .inr rfl⟩

-- Each validator is kept for an entity that is stored.
def IsFaithful (c : ValidatorCache) (t : Tables) : Prop :=
  ∀ key v, c.get? key = some v →
    ∃ e, t.entity? key.scope key.name = .ok (some e) ∧ v.IsKeptFor e.fields

namespace IsFaithful

theorem empty : ValidatorCache.empty.IsFaithful t := nofun

theorem insert (h : c.IsFaithful t) (he : t.entity? key.scope key.name = .ok (some e))
    (hv : v.IsKeptFor e.fields) : (c.insert key v).IsFaithful t := by
  intro k w hw
  rw [get?_insert] at hw
  split at hw
  case isTrue hk => cases hw; exact hk ▸ ⟨e, he, hv⟩
  case isFalse => exact h k w hw

theorem congr (h : c.IsFaithful t) (he : t'.entities = t.entities) : c.IsFaithful t' := by
  intro k v hv
  simpa [Tables.entity?, Tables.entityRow?, he] using h k v hv

theorem warm (h : c.IsFaithful t) (ht : t.IsSound) {es : List Entity}
    (hes : ∀ e ∈ es, t.entity? e.scope e.name = .ok (some e)) : (c.warm es).1.IsFaithful t := by
  induction es generalizing c
  case nil => exact h
  case cons e es hi =>
    have ⟨he, hes⟩ := List.forall_mem_cons.mp hes
    cases hg : Validator.generate e.fields
    case error f => simpa [ValidatorCache.warm, put, hg, bind, Except.bind] using h
    case ok v =>
      have hv := Validator.isKeptFor_self (ht.accepted he) hg
      have hk : (c.insert ⟨e.scope, e.name⟩ v).IsFaithful t := h.insert he hv
      have hi := hi hk hes
      simp only [ValidatorCache.warm, put, hg, bind, Except.bind]
      split <;> simp_all

end IsFaithful

end ValidatorCache

end EntityCatalog
