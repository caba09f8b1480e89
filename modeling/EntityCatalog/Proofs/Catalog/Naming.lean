import EntityCatalog.Proofs.Catalog.Reachable
import EntityCatalog.Proofs.Text.Words

namespace EntityCatalog

open Text

variable {cs name name' : List Char}

theorem tableName_eq : tableName name = joinWith '_' ((words name).map lower) := by
  have hs : strip (strip name) = strip name := strip_strip name
  have hl : ¬startsBlank (lower (strip name)) := not_startsBlank_lower (not_startsBlank_of_strip hs)
  have hr : ¬endsBlank (lower (strip name)) := not_endsBlank_lower (not_endsBlank_of_strip hs)
  rw [tableName, joinBlanks_eq hr, if_neg hl, words_lower, words_strip]

structure IsNormalName (cs : List Char) : Prop where
  blankless : ∀ c ∈ cs, ¬isBlank c
  small     : ∀ c ∈ cs, IsSmall c

theorem mem_tableName {c : Char} (hc : c ∈ tableName name) :
    c = '_' ∨ ∃ w ∈ words name, c ∈ lower w := by
  rw [tableName_eq] at hc
  refine (mem_joinWith hc).imp_right fun ⟨_, hp, hc⟩ => ?_
  obtain ⟨w, hw, rfl⟩ := List.mem_map.mp hp
  exact ⟨w, hw, hc⟩

theorem isNormalName_tableName : IsNormalName (tableName name) := by
  constructor
  case blankless =>
    intro c hc
    rcases mem_tableName hc with rfl | ⟨w, hw, hc⟩
    case inl => decide
    case inr => exact not_isBlank_of_mem_lower (not_isBlank_of_mem_words hw) c hc
  case small =>
    intro c hc
    rcases mem_tableName hc with rfl | ⟨w, _, hc⟩
    case inl => decide
    case inr => exact isSmall_of_mem_lowerAux hc

theorem IsNormalName.tableName_eq_self (h : IsNormalName cs) : tableName cs = cs := by
  rw [tableName_eq]
  by_cases hn : cs = []
  case pos => rw [hn]; rfl
  case neg =>
    rw [words_eq_singleton hn h.blankless]
    exact lowerAux_eq_self h.small

theorem tableName_eq_self_iff : tableName cs = cs ↔ IsNormalName cs :=
  ⟨fun h => h ▸ isNormalName_tableName, IsNormalName.tableName_eq_self⟩

inductive Respells : List Char → List Char → Prop
  | around {cs l r : List Char} :
    (∀ c ∈ l, isBlank c) → (∀ c ∈ r, isBlank c) → Respells cs (l ++ cs ++ r)
  | gap {u v r r' : List Char} : IsGap r → IsGap r' → Respells (u ++ r ++ v) (u ++ r' ++ v)
  | lowered {cs : List Char} : Respells cs (lower cs)

-- What comes of a name and is the same for all of its spellings.
structure IsNormalForm (f : List Char → List Char) : Prop where
  blankless  : ∀ name, ∀ c ∈ f name, ¬isBlank c
  fixed      : ∀ name, f name = name ↔ IsNormalName name
  idempotent : ∀ name, f (f name) = f name
  respelled  : ∀ {name name'}, Respells name name' → f name' = f name

theorem Respells.tableName_eq (h : Respells name name') : tableName name' = tableName name := by
  rw [EntityCatalog.tableName_eq, EntityCatalog.tableName_eq]
  cases h
  case around hl hr => rw [words_around hl hr]
  case gap hr hr' => rw [words_gap hr, words_gap hr']
  case lowered =>
    have h : lower ∘ lower = lower := funext fun _ => lower_lower
    rw [words_lower, List.map_map, h]

theorem isNormalForm_tableName : IsNormalForm tableName where
  blankless  := fun _ => isNormalName_tableName.blankless
  fixed      := fun _ => tableName_eq_self_iff
  idempotent := fun _ => isNormalName_tableName.tableName_eq_self
  respelled  := Respells.tableName_eq

theorem tableName_stripped {name : String} :
    tableName name.stripped.toList = tableName name.toList := by
  rw [String.stripped, String.toList_ofList, tableName_eq, words_strip, tableName_eq]

namespace Catalog

variable {c : Catalog} {limits : PageLimits} {g : Grant} {scope a b name : String}
  {fields : List Field.Source} {fs : List Field}

theorem define_stripped : c.define g scope name.stripped fields = c.define g scope name fields := by
  simp only [define, prepare, cleanName, String.stripped_stripped]

def Clash (a b : String) : Prop :=
  ∀ limits c scope g fields fs, Reachable limits c →
    (∃ r ∈ c.tables.entities, r.scope = scope ∧ r.name = a.stripped) →
    Field.readSources fields = .ok fs → (Call.mk (.define scope b fields) g).IsFresh c.tables →
    (c.define g scope b fields).code? = some "CONFLICT"

theorem Reachable.code?_define_iff (h : Reachable limits c)
    (hf : Field.readSources fields = .ok fs) (hb : name.stripped ≠ "")
    (hi : (Call.mk (.define scope name fields) g).IsFresh c.tables) :
    (c.define g scope name fields).code? = some "CONFLICT" ↔
      ∃ r ∈ c.tables.entities, r.scope = scope ∧
        tableName r.name.toList = tableName name.toList := by
  have ht : tableName name.toList = tableName name.stripped.toList := tableName_stripped.symm
  rw [← define_stripped, ht]
  exact code?_define h.isSound h.isNamed hf hb String.stripped_stripped hi

theorem exists_reachable_single (scope : String) (ha : a.stripped ≠ "") :
    ∃ c r, Reachable {} c ∧ c.tables.entities = [r] ∧ r.scope = scope ∧ r.name = a.stripped ∧
      r.id = IdKind.definition.idOf "0" := by
  let k := Call.numbered "0" (.define scope a [])
  let e : Entity :=
    { id := IdKind.definition.idOf "0", scope, name := a.stripped,
      tableName := String.ofList (tableName a.stripped.toList), fields := [],
      createdAt := k.grant.now.stamp, updatedAt := k.grant.now.stamp }
  have hp : prepare k.grant scope a [] = .ok e := by
    simp [e, prepare, cleanName, ha, bind, Except.bind, Field.readSources, Field.readFrom]
    rfl
  have ho : k.outcome {} = define {} k.grant scope a [] := rfl
  have ht : (k.outcome {}).catalog.tables.entities = [.ofEntity e] := by
    simp [ho, define, hp, Tables.clash?, Tables.entityRow?, Tables.insertEntity]
  exact ⟨(k.outcome {}).catalog, .ofEntity e, .call .empty (by simp [k, Request.IsSound]), ht, rfl,
    rfl, rfl⟩

theorem clash_iff (ha : a.stripped ≠ "") (hb : b.stripped ≠ "") :
    Clash a b ↔ tableName a.toList = tableName b.toList := by
  constructor
  case mp =>
    intro h
    obtain ⟨c, r, hc, hr, hs, hn, hi⟩ := exists_reachable_single "" ha
    let k := Call.numbered "1" (.define "" b [])
    have hd : IdKind.definition.idOf "1" ≠ IdKind.definition.idOf "0" := by decide
    have hf : k.IsFresh c.tables := by
      simpa [k, Call.numbered, Call.IsFresh, Request.made?, Tables.ids, hr, hi] using hd
    have hk := h _ c "" k.grant [] [] hc ⟨r, by simp [hr], hs, hn⟩ rfl hf
    obtain ⟨r', hr', _, ht⟩ := (hc.code?_define_iff rfl hb hf).mp hk
    rw [hr, List.mem_singleton] at hr'
    rwa [hr', hn, tableName_stripped] at ht
  case mpr =>
    rintro h limits c scope g fields fs hc ⟨r, hr, hs, hn⟩ hf hi
    refine (hc.code?_define_iff hf hb hi).mpr ⟨r, hr, hs, ?_⟩
    rw [hn, tableName_stripped, h]

theorem equivalence_clash :
    Equivalence fun a b : {name : String // name.stripped ≠ ""} => Clash a b where
  refl  := fun a => (clash_iff a.2 a.2).mpr rfl
  symm  := fun {a b} h => (clash_iff b.2 a.2).mpr ((clash_iff a.2 b.2).mp h).symm
  trans := fun {a b d} h h' =>
    (clash_iff a.2 d.2).mpr (((clash_iff a.2 b.2).mp h).trans ((clash_iff b.2 d.2).mp h'))

-- A table name is a normal form of names, and names clash if it is the same for both. A new entity
-- is in conflict with just those entities of its scope whose names clash with its own.
theorem tableName_normal :
    IsNormalForm tableName ∧
      (∀ a b : String, a.stripped ≠ "" → b.stripped ≠ "" →
        (Clash a b ↔ tableName a.toList = tableName b.toList)) ∧
      (Equivalence fun a b : {name : String // name.stripped ≠ ""} => Clash a b) ∧
      ∀ limits c g scope name fields fs, Reachable limits c →
        Field.readSources fields = .ok fs → name.stripped ≠ "" →
        (Call.mk (.define scope name fields) g).IsFresh c.tables →
        ((c.define g scope name fields).code? = some "CONFLICT" ↔
          ∃ r ∈ c.tables.entities, r.scope = scope ∧ Clash r.name name) := by
  refine ⟨isNormalForm_tableName, fun a b ha hb => clash_iff ha hb, equivalence_clash, ?_⟩
  intro limits c g scope name fields fs hc hf hb hi
  rw [hc.code?_define_iff hf hb hi]
  refine exists_congr fun r => and_congr_right fun hr => and_congr_right fun _ => ?_
  have hn := hc.isNamed r hr
  exact (clash_iff (hn.stripped.symm ▸ hn.nonempty) hb).symm

theorem tableName_normal_shared :
    let c : Catalog := after {} shared
    tableName ("ΛΟΓΟΣ".toList ++ "\u3000\t".toList ++ "ΟΔΟΣ".toList) = "λογος_οδος".toList ∧
      ∃ r ∈ c.tables.entities, r.scope = "home" ∧ Clash r.name "\u2003DAILY\tNOTE" := by
  intro c
  let k := Call.numbered "5" (.define "home" "\u2003DAILY\tNOTE" [])
  have ⟨hf, _, _, hd⟩ := tableName_normal
  have hs : Respells ("ΛΟΓΟΣ".toList ++ " ".toList ++ "ΟΔΟΣ".toList)
      ("ΛΟΓΟΣ".toList ++ "\u3000\t".toList ++ "ΟΔΟΣ".toList) :=
    .gap ⟨by decide, List.all_eq_true.mp (by decide +kernel)⟩
      ⟨by decide, List.all_eq_true.mp (by decide +kernel)⟩
  have hi : k.IsFresh c.tables := by decide +kernel
  have hk : (c.define k.grant "home" "\u2003DAILY\tNOTE" []).code? = some "CONFLICT" := by
    decide +kernel
  refine ⟨(hf.respelled hs).trans (by decide +kernel), ?_⟩
  exact (hd {} c k.grant "home" "\u2003DAILY\tNOTE" [] [] reachable_shared rfl (by decide +kernel)
    hi).mp hk

end Catalog

end EntityCatalog
