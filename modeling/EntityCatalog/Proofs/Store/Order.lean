import EntityCatalog.Proofs.Numeric.Worth
import EntityCatalog.Proofs.Store.Cell
import EntityCatalog.Store.Tables
import Mathlib.Data.Prod.Lex
import Mathlib.Data.String.Basic
import Mathlib.Data.Sum.Order
import Mathlib.Order.WithBot

namespace EntityCatalog

abbrev Place := WithBot (ℚ ⊕ₗ String)

namespace Place

def number (q : ℚ) : Place := ((Sum.inlₗ q : ℚ ⊕ₗ String) : WithBot _)

def text (s : String) : Place := ((Sum.inrₗ s : ℚ ⊕ₗ String) : WithBot _)

variable {q r : ℚ} {s t : String}

theorem number_lt_number : number q < number r ↔ q < r :=
  WithBot.coe_lt_coe.trans Sum.Lex.inl_lt_inl_iff

theorem text_lt_text : text s < text t ↔ s < t :=
  WithBot.coe_lt_coe.trans Sum.Lex.inr_lt_inr_iff

theorem number_lt_text : number q < text s :=
  WithBot.coe_lt_coe.mpr (Sum.Lex.inl_lt_inr _ _)

theorem bot_lt_number : ⊥ < number q := WithBot.bot_lt_coe _

theorem bot_lt_text : ⊥ < text s := WithBot.bot_lt_coe _

theorem number_inj : number q = number r ↔ q = r :=
  WithBot.coe_inj.trans (by simp)

theorem text_inj : text s = text t ↔ s = t :=
  WithBot.coe_inj.trans (by simp)

end Place

namespace Value

def place : Value → Place
  | bool b => .number (if b then 1 else 0)
  | int n => .number n
  | real x => .number x.worth
  | text s => .text s
  | _ => ⊥

-- Values that the store orders exactly: integers are words, and texts hold no NUL.
def isSortable : Value → Bool
  | null | bool _ => true
  | int n => isWord n
  | real x => x.isInRange
  | text s => s.toList.all (·.toNat ≠ 0)
  | _ => false

end Value

namespace Cell

variable {a b : Cell} {x y : Place}

inductive StandsAt : Cell → Place → Prop
  | null : StandsAt .null ⊥
  | number {a : Cell} {u : Int} {q : ℚ} :
    a.position? = some (.point u) → (u : ℚ) = q * 2 ^ 1074 → StandsAt a (.number q)
  | text {s} : StandsAt (.text s) (.text s)

theorem standsAt_ofValue {v : Value} (h : v.isSortable) : (ofValue v).StandsAt v.place := by
  cases v <;> simp only [Value.isSortable, Bool.false_eq_true] at h
  case null => exact .null
  case bool b =>
    obtain ⟨u, hu, hq⟩ := Position.isAt_ofInt (if b then 1 else 0)
    exact .number (congrArg some hu) (by rw [hq]; cases b <;> simp)
  case int n =>
    obtain ⟨u, hu, hq⟩ := Position.isAt_ofInt n
    rw [ofValue, ofInt, if_pos h]
    exact .number (congrArg some hu) hq
  case real x =>
    obtain ⟨u, hu, hq⟩ := Binary64.isAt_position h
    exact .number (congrArg some hu) hq
  case text s =>
    rw [ofValue, beforeNul_eq h]
    exact .text

theorem lt_of_position {p q : Position} (ha : a.position? = some p) (hb : b.position? = some q) :
    a.lt b = p.lt q := by
  cases a <;> cases b <;> simp_all [lt, position?]

theorem same_of_position {p q : Position} (ha : a.position? = some p)
    (hb : b.position? = some q) : a.same b = p.same q := by
  cases a <;> cases b <;> simp_all [same, position?]

theorem StandsAt.lt_iff (ha : a.StandsAt x) (hb : b.StandsAt y) : a.lt b ↔ x < y := by
  cases ha <;> cases hb
  case null.null => simp [lt]
  case null.number h _ => cases b <;> simp_all [lt, position?, Place.bot_lt_number]
  case null.text => simp [lt, Place.bot_lt_text]
  case number.null h _ => cases a <;> simp_all [lt, position?]
  case number.number hq ha _ _ hr hb =>
    rw [lt_of_position ha hb, Place.number_lt_number,
      Position.IsAt.lt_iff ⟨_, rfl, hq⟩ ⟨_, rfl, hr⟩]
  case number.text h _ => cases a <;> simp_all [lt, position?, Place.number_lt_text]
  case text.null => simp [lt, position?]
  case text.number h _ => cases b <;> simp_all [lt, position?, Place.number_lt_text.not_gt]
  case text.text => simp [lt, Place.text_lt_text]

theorem StandsAt.same_iff (ha : a.StandsAt x) (hb : b.StandsAt y) : a.same b ↔ x = y := by
  cases ha <;> cases hb
  case null.null => simp [same]
  case null.number h _ => cases b <;> simp_all [same, position?, Place.bot_lt_number.ne]
  case null.text => simp [same, Place.bot_lt_text.ne, position?]
  case number.null h _ => cases a <;> simp_all [same, position?, Place.bot_lt_number.ne']
  case number.number hq ha _ _ hr hb =>
    rw [same_of_position ha hb, Place.number_inj,
      Position.IsAt.same_iff ⟨_, rfl, hq⟩ ⟨_, rfl, hr⟩]
  case number.text h _ => cases a <;> simp_all [same, position?, Place.number_lt_text.ne]
  case text.null => simp [same, Place.bot_lt_text.ne', position?]
  case text.number h _ => cases b <;> simp_all [same, position?, Place.number_lt_text.ne']
  case text.text => simp [same, Place.text_inj]

end Cell

namespace RecordRow

variable {a b : RecordRow} {sort : Option SortKey} {k : SortKey}

def place (r : RecordRow) (field : String) : Place :=
  match r.data.get? field with
  | some v => v.place
  | none => ⊥

def IsNewer (a b : RecordRow) : Prop :=
  b.createdAt < a.createdAt ∨ a.createdAt = b.createdAt ∧ b.id < a.id

-- Which of two records comes first in a list that is sorted by a member, or not sorted at all.
def Precedes (a : RecordRow) (sort : Option SortKey) (b : RecordRow) : Prop :=
  match sort with
  | none => IsNewer a b
  | some ⟨field, .ascending⟩ =>
    a.place field < b.place field ∨ a.place field = b.place field ∧ IsNewer a b
  | some ⟨field, .descending⟩ =>
    b.place field < a.place field ∨ a.place field = b.place field ∧ IsNewer a b

def ageOf (createdAt id : String) : (String ×ₗ String)ᵒᵈ := OrderDual.toDual (toLex (createdAt, id))

-- All that an order looks at: the place from the one end or the other, and the age.
def rank (sort : Option SortKey) (r : RecordRow) : Place ×ₗ Placeᵒᵈ ×ₗ (String ×ₗ String)ᵒᵈ :=
  let nowhere := OrderDual.toDual (⊥ : Place)
  let age := ageOf r.createdAt r.id
  match sort with
  | none => toLex (⊥, toLex (nowhere, age))
  | some ⟨field, .ascending⟩ => toLex (r.place field, toLex (nowhere, age))
  | some ⟨field, .descending⟩ => toLex (⊥, toLex (OrderDual.toDual (r.place field), age))

theorem isNewer_iff : a.IsNewer b ↔ ageOf a.createdAt a.id < ageOf b.createdAt b.id := by
  rw [ageOf, ageOf, OrderDual.toDual_lt_toDual, Prod.Lex.toLex_lt_toLex, IsNewer]
  simp only [eq_comm]

theorem precedes_iff : a.Precedes sort b ↔ a.rank sort < b.rank sort := by
  rcases sort with _ | ⟨field, _ | _⟩
  all_goals simp [Precedes, rank, Prod.Lex.toLex_lt_toLex, isNewer_iff]

theorem id_eq_of_rank_eq (h : a.rank sort = b.rank sort) : a.id = b.id := by
  rcases sort with _ | ⟨field, _ | _⟩
  all_goals simp_all [rank, ageOf]

structure IsSortable (r : RecordRow) (field : String) : Prop where
  plain    : isPlainName field
  finite   : Value.allFinite r.data
  sortable : (r.data.get? field).all Value.isSortable

instance (r : RecordRow) (field : String) : Decidable (r.IsSortable field) :=
  decidable_of_iff
    (isPlainName field ∧ Value.allFinite r.data ∧ (r.data.get? field).all Value.isSortable)
    ⟨fun ⟨hp, hf, hs⟩ => ⟨hp, hf, hs⟩, fun ⟨hp, hf, hs⟩ => ⟨hp, hf, hs⟩⟩

theorem IsSortable.standsAt {r : RecordRow} {field : String} (h : r.IsSortable field) :
    (r.data.cell field).StandsAt (r.place field) := by
  have hs := h.sortable
  rw [Document.cell, Document.labelled?_of_plain h.plain, place]
  cases hv : r.data.get? field <;> rw [hv] at hs
  case none => exact .null
  case some v => exact Cell.standsAt_ofValue hs

theorem newerFirst_iff : newerFirst a b ↔ ¬b.IsNewer a := by
  unfold newerFirst IsNewer
  split
  case isTrue h => simp [h]
  case isFalse h =>
    have h := Ne.symm h
    simp only [h, false_and, or_false, decide_eq_true_iff, not_lt, h.le_iff_lt]

theorem inOrder_iff (ha : ∀ k ∈ sort, a.IsSortable k.field)
    (hb : ∀ k ∈ sort, b.IsSortable k.field) : inOrder sort a b ↔ ¬b.Precedes sort a := by
  rcases sort with _ | ⟨field, direction⟩
  case none => exact newerFirst_iff
  case some =>
    have ha := (ha _ rfl).standsAt
    have hb := (hb _ rfl).standsAt
    unfold inOrder
    dsimp only
    split
    case isTrue h =>
      have h := (ha.same_iff hb).mp h
      cases direction <;> simp [Precedes, h, newerFirst_iff]
    case isFalse h =>
      have h : a.place field ≠ b.place field := mt (ha.same_iff hb).mpr h
      cases direction
      case ascending => simp [Precedes, ha.lt_iff hb, h.symm, h.le_iff_lt]
      case descending => simp [Precedes, hb.lt_iff ha, h.symm, h.symm.le_iff_lt]

end RecordRow

-- A comparison only has to be that of keys for the elements that are sorted.
theorem List.pairwise_mergeSort_of_key {α κ : Type} [LinearOrder κ] {le : α → α → Bool}
    {key : α → κ} {as : List α} (h : ∀ a ∈ as, ∀ b ∈ as, le a b ↔ key a ≤ key b) :
    (as.mergeSort le).Pairwise fun a b => key a ≤ key b := by
  have hk : ∀ a ∈ as, ∀ b ∈ as, le a b = decide (key (id a) ≤ key (id b)) := by
    intro a ha b hb
    rw [Bool.eq_iff_iff, decide_eq_true_iff]
    exact h a ha b hb
  have hm := List.map_mergeSort (f := id) (s := fun a b => decide (key a ≤ key b)) hk
  rw [List.map_id, List.map_id] at hm
  rw [hm]
  refine (List.pairwise_mergeSort ?trans ?total as).imp fun hl => by simpa using hl
  case trans => simpa using fun a b c => le_trans
  case total => simpa using fun a b => le_total _ _

theorem RecordRow.pairwise_precedes {sort : Option SortKey} {rows : List RecordRow}
    (hn : (rows.map (·.id)).Nodup)
    (hs : ∀ r ∈ rows, ∀ k ∈ sort, r.IsSortable k.field) :
    (rows.mergeSort (inOrder sort)).Pairwise (Precedes · sort ·) := by
  have hr : (rows.mergeSort (inOrder sort)).Pairwise fun a b => a.rank sort ≤ b.rank sort := by
    refine List.pairwise_mergeSort_of_key fun a ha b hb => ?_
    rw [inOrder_iff (hs a ha) (hs b hb), precedes_iff, not_lt]
  have hd : (rows.mergeSort (inOrder sort)).Pairwise fun a b => a.id ≠ b.id := by
    rw [← List.pairwise_map, ← List.Nodup]
    exact ((List.mergeSort_perm _ _).map _).nodup_iff.mpr hn
  refine (hr.and hd).imp fun ⟨hl, hi⟩ => precedes_iff.mpr (hl.lt_of_ne ?_)
  exact mt id_eq_of_rank_eq hi

end EntityCatalog
