import Mathlib.Data.List.Forall2

namespace List

theorem Forall₂.exists_of_mem {α β : Type} {R : α → β → Prop} {l : List α} {bs : List β}
    (h : Forall₂ R l bs) {a : α} (ha : a ∈ l) : ∃ b ∈ bs, R a b := by
  induction h
  case nil => cases ha
  case cons hab _ hi =>
    rcases List.mem_cons.mp ha with rfl | ha
    case inl => exact ⟨_, List.mem_cons_self, hab⟩
    case inr =>
      obtain ⟨b, hb, hr⟩ := hi ha
      exact ⟨b, List.mem_cons_of_mem _ hb, hr⟩

end List

namespace EntityCatalog

theorem Except.toOption_eq_some_iff {ε α : Type} {x : Except ε α} {a : α} :
    x.toOption = some a ↔ x = .ok a := by
  cases x <;> simp [Except.toOption]

namespace List

theorem find?_eq_some_iff_of_unique {α : Type} {l : List α} {p : α → Bool} {a : α}
    (h : ∀ b ∈ l, ∀ c ∈ l, p b → p c → b = c) : l.find? p = some a ↔ a ∈ l ∧ p a := by
  constructor
  case mp => exact fun hf => ⟨List.mem_of_find?_eq_some hf, List.find?_some hf⟩
  case mpr =>
    intro ⟨hm, hp⟩
    cases hf : l.find? p
    case none => exact absurd hp (List.find?_eq_none.mp hf a hm)
    case some b => rw [h b (List.mem_of_find?_eq_some hf) a hm (List.find?_some hf) hp]

theorem mapM_eq_ok_iff_forall₂ {ε α β : Type} {f : α → Except ε β} {l : List α} {bs : List β} :
    l.mapM f = .ok bs ↔ List.Forall₂ (fun a b => f a = .ok b) l bs := by
  induction l generalizing bs
  case nil => simp [pure, Except.pure, eq_comm]
  case cons a l hi =>
    rw [List.mapM_cons]
    cases ha : f a
    case error => simp [ha, bind, Except.bind, List.forall₂_cons_left_iff]
    case ok b =>
      cases hl : l.mapM f
      case error => simp [ha, hl, bind, Except.bind, List.forall₂_cons_left_iff, ← hi]
      case ok cs =>
        simp [ha, hl, bind, Except.bind, pure, Except.pure, List.forall₂_cons_left_iff, ← hi,
          eq_comm]

theorem mem_mapM_iff {ε α β : Type} {f : α → Except ε β} {l : List α} {bs : List β}
    (h : l.mapM f = .ok bs) {b : β} : b ∈ bs ↔ ∃ a ∈ l, f a = .ok b := by
  rw [mapM_eq_ok_iff_forall₂] at h
  induction h
  case nil => simp
  case cons a c l bs hc _ hi => simp [hi, hc, eq_comm]

theorem map_eq_of_mapM {ε α β γ : Type} {f : α → Except ε β} {l : List α} {bs : List β}
    (h : l.mapM f = .ok bs) {g : β → γ} {k : α → γ} (hg : ∀ a ∈ l, ∀ b, f a = .ok b → g b = k a) :
    bs.map g = l.map k := by
  rw [mapM_eq_ok_iff_forall₂] at h
  induction h
  case nil => rfl
  case cons a c l bs hc _ hi =>
    have ⟨ha, hg⟩ := List.forall_mem_cons.mp hg
    rw [List.map_cons, List.map_cons, ha c hc, hi hg]

theorem exists_mapM_eq_ok {ε α β : Type} {f : α → Except ε β} {l : List α}
    (h : ∀ a ∈ l, ∃ b, f a = .ok b) : ∃ bs, l.mapM f = .ok bs := by
  induction l
  case nil => exact ⟨[], rfl⟩
  case cons a l hi =>
    have ⟨⟨b, hb⟩, h⟩ := List.forall_mem_cons.mp h
    have ⟨bs, hl⟩ := hi h
    exact ⟨b :: bs, by rw [List.mapM_cons, hb, hl]; rfl⟩

theorem mapM_map_eq_ok {ε α β γ : Type} {f : β → Except ε γ} {l : List α} {g : α → β} {k : α → γ}
    (h : ∀ a ∈ l, f (g a) = .ok (k a)) : (l.map g).mapM f = .ok (l.map k) := by
  induction l
  case nil => rfl
  case cons a l hi =>
    have ⟨ha, h⟩ := List.forall_mem_cons.mp h
    rw [List.map_cons, List.mapM_cons, ha, hi h]
    rfl

section Attempts

variable {ε α β : Type} {l : List α} {e : ε}

-- The error of a list of attempts is that of the first one that fails.
theorem mapM_eq_error_iff {f : α → Except ε β} :
    l.mapM f = .error e ↔ ∃ before a after, l = before ++ a :: after ∧
      (∀ b ∈ before, ∃ c, f b = .ok c) ∧ f a = .error e := by
  induction l
  case nil => simp [pure, Except.pure]
  case cons a l hi =>
    have hs : (a :: l).mapM f = .error e ↔
        f a = .error e ∨ (∃ c, f a = .ok c) ∧ l.mapM f = .error e := by
      rw [List.mapM_cons]
      cases f a <;> cases l.mapM f <;> simp [bind, Except.bind, pure, Except.pure]
    rw [hs, hi]
    constructor
    case mp =>
      rintro (ha | ⟨hc, before, b, after, rfl, hb, hf⟩)
      case inl => exact ⟨[], a, l, rfl, nofun, ha⟩
      case inr => exact ⟨a :: before, b, after, rfl, List.forall_mem_cons.mpr ⟨hc, hb⟩, hf⟩
    case mpr =>
      rintro ⟨before, b, after, he, hb, hf⟩
      cases before
      case nil =>
        cases he
        exact .inl hf
      case cons =>
        cases he
        obtain ⟨ha, hb⟩ := List.forall_mem_cons.mp hb
        exact .inr ⟨ha, _, b, after, rfl, hb, hf⟩

theorem forM_eq_map_mapM {f : α → Except ε Unit} : l.forM f = (l.mapM f).map fun _ => () := by
  induction l
  case nil => rfl
  case cons a l hi =>
    change (f a >>= fun _ => l.forM f) = _
    rw [hi, List.mapM_cons]
    cases f a
    case error => rfl
    case ok => cases l.mapM f <;> rfl

theorem forM_eq_ok_iff {f : α → Except ε Unit} : l.forM f = .ok () ↔ ∀ a ∈ l, f a = .ok () := by
  rw [forM_eq_map_mapM]
  induction l
  case nil => simp [pure, Except.pure, Except.map]
  case cons a l hi =>
    rw [List.mapM_cons, List.forall_mem_cons, ← hi]
    cases f a <;> cases l.mapM f <;> simp [bind, Except.bind, Except.map, pure, Except.pure]

theorem forM_eq_error_iff {f : α → Except ε Unit} :
    l.forM f = .error e ↔ ∃ before a after, l = before ++ a :: after ∧
      (∀ b ∈ before, f b = .ok ()) ∧ f a = .error e := by
  have hm : l.forM f = .error e ↔ l.mapM f = .error e := by
    rw [forM_eq_map_mapM]
    cases l.mapM f <;> simp [Except.map]
  have hu : ∀ b, (∃ c, f b = .ok c) ↔ f b = .ok () := fun b => by simp [Unique.exists_iff]
  simp only [hm, mapM_eq_error_iff, hu]

end Attempts

section Option

variable {α β : Type} {f : α → Option β} {l : List α}

theorem exists_mem_of_mapM_eq_some {bs : List β} (h : l.mapM f = some bs) {b : β} (hb : b ∈ bs) :
    ∃ a ∈ l, f a = some b := by
  induction l generalizing bs
  case nil => cases h; cases hb
  case cons a l hi =>
    rw [List.mapM_cons] at h
    cases ha : f a <;> cases hl : l.mapM f <;> simp only [ha, hl] at h <;> cases h
    case some.some.refl =>
      rcases List.mem_cons.mp hb with rfl | hb
      case inl => exact ⟨a, by simp, ha⟩
      case inr =>
        have ⟨a, hm, ha⟩ := hi hl hb
        exact ⟨a, by simp [hm], ha⟩

theorem mapM_eq_none_iff : l.mapM f = none ↔ ∃ a ∈ l, f a = none := by
  induction l
  case nil => simp
  case cons a l hi =>
    rw [List.mapM_cons]
    cases ha : f a <;> cases hl : l.mapM f <;> simp [ha, hl, ← hi]

theorem mapM_eq_some_iff_forall₂ {bs : List β} :
    l.mapM f = some bs ↔ List.Forall₂ (fun a b => f a = some b) l bs := by
  induction l generalizing bs
  case nil => simp [eq_comm]
  case cons a l hi =>
    rw [List.mapM_cons, List.forall₂_cons_left_iff]
    cases ha : f a
    case none => simp
    case some b =>
      cases hl : l.mapM f
      case none => simp [← hi, hl]
      case some cs => simp [← hi, hl, eq_comm]

end Option

variable {α β : Type} [BEq α] [LawfulBEq α] (l : List (α × β)) (key k : α) (v : β)

theorem lookup_replace :
    (l.map fun m => if m.1 == key then (key, v) else m).lookup k =
      if k == key then (l.lookup key).map fun _ => v else l.lookup k := by
  induction l
  case nil => simp
  case cons m l hi =>
    obtain ⟨n, w⟩ := m
    by_cases hn : n = key
    case pos =>
      subst hn
      cases hk : k == n <;> simp [List.lookup_cons, hk] at hi ⊢
      exact hi
    case neg =>
      have hn' : (key == n) = false := by simpa using Ne.symm hn
      cases hk : k == n
      case false => simp [List.lookup_cons, hn, hn', hk, hi]
      case true =>
        have hk := eq_of_beq hk
        subst hk
        simp [hn]

theorem lookup_set :
    (if l.any (·.1 == key) then l.map fun m => if m.1 == key then (key, v) else m
      else l ++ [(key, v)]).lookup k = if k == key then some v else l.lookup k := by
  split
  case isTrue h =>
    have ⟨m, hm, he⟩ := List.any_eq_true.mp h
    have hs : (l.lookup key).isSome := List.lookup_isSome_iff.mpr ⟨m, hm, by rwa [BEq.comm]⟩
    have ⟨w, hw⟩ := Option.isSome_iff_exists.mp hs
    simp [lookup_replace, hw]
  case isFalse h =>
    have hn : l.lookup key = none := by
      simp only [List.lookup_eq_none_iff, bne_iff_ne]
      rintro m hm rfl
      exact h (List.any_eq_true.mpr ⟨m, hm, by simp⟩)
    cases hk : k == key
    case false => simp [List.lookup_append, List.lookup_cons, hk]
    case true => simp [List.lookup_append, eq_of_beq hk, hn]

theorem lookup_filter (p : α → Bool) :
    (l.filter fun m => p m.1).lookup k = if p k then l.lookup k else none := by
  induction l
  case nil => simp
  case cons m l hi =>
    obtain ⟨n, w⟩ := m
    cases hk : k == n
    case false => cases hp : p n <;> simp [List.lookup_cons, hk, hp, hi]
    case true =>
      have hk := eq_of_beq hk
      subst hk
      cases hp : p k <;> simp [hp, hi]

end List

end EntityCatalog
