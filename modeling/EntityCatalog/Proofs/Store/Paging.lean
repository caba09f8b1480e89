import EntityCatalog.Proofs.Numeric.Quotient
import EntityCatalog.Proofs.Store.Finite
import EntityCatalog.Proofs.Store.Order

namespace EntityCatalog

namespace Page

-- The page of `n` rows that is the `p`-th one; the first page is no. 1.
def nth (n p : Nat) : Page := ⟨p, n, (p - 1) * n⟩

theorem nth_offset {n p : Nat} (hp : 1 ≤ p) : (nth n p).offset = ((p - 1) * n : Nat) := by
  push_cast [hp]
  rfl

end Page

section

variable {α : Type} {as : List α} {n p : Nat}

theorem pageOf_nth (hp : 1 ≤ p) :
    Tables.pageOf (some (.nth n p)) as = (as.drop ((p - 1) * n)).take n := by
  have hn : ¬(Page.nth n p).limit < 0 := Int.not_lt.mpr (Int.natCast_nonneg n)
  simp only [Tables.pageOf, Page.nth_offset hp, if_neg hn, Int.toNat_natCast]
  rfl

theorem pageOf_nth_ne_nil_iff (hn : 1 ≤ n) (hp : 1 ≤ p) :
    Tables.pageOf (some (.nth n p)) as ≠ [] ↔ p ≤ as.length ⌈/⌉ n := by
  have hc : as.length ⌈/⌉ n ≤ p - 1 ↔ as.length ≤ n * (p - 1) := ceilDiv_le_iff_le_mul hn
  rw [pageOf_nth hp, Ne, List.take_eq_nil_iff, List.drop_eq_nil_iff, mul_comm, ← hc]
  omega

-- By induction on the number of pages: the first ones are as much of the list as fits on them.
theorem flatten_pageOf (k : Nat) :
    ((List.range' 1 k).map fun p => Tables.pageOf (some (.nth n p)) as).flatten =
      as.take (k * n) := by
  induction k
  case zero => simp
  case succ k hi =>
    rw [List.range'_concat, List.map_append, List.flatten_append, hi, Nat.succ_mul k n,
      List.take_add]
    simp [pageOf_nth]

theorem flatten_pageOf_ceilDiv (hn : 1 ≤ n) :
    ((List.range' 1 (as.length ⌈/⌉ n)).map fun p => Tables.pageOf (some (.nth n p)) as).flatten =
      as := by
  have hl : as.length ≤ n * (as.length ⌈/⌉ n) := (ceilDiv_le_iff_le_mul hn).mp le_rfl
  rw [flatten_pageOf, List.take_of_length_le (by rwa [mul_comm])]

end

theorem Listing.pageInfo_nth {total n p : Nat} (hn : 1 ≤ n) (ht : total < 2 ^ 53)
    (hb : n < 2 ^ 53) :
    ∃ info, pageInfo total (some (.nth n p)) = .ok info ∧
      info.get? "hasNextPage" = some (.bool (p < total ⌈/⌉ n)) := by
  have hc := pageCount_eq hn ht hb
  simp only [pageInfo, Page.nth, hc, bind, Except.bind]
  exact ⟨_, rfl, by simp [Document.get?, List.lookup]⟩

namespace Tables

variable {t : Tables} {scope name : String} {filter : Option Predicate} {sort : Option SortKey}
  {c : Clause} {rows : List RecordRow} {n p : Nat}

structure IsListing (t : Tables) (scope name : String) (filter : Option Predicate)
    (sort : Option SortKey) (c : Clause) (rows : List RecordRow) : Prop where
  found   : t.find scope name filter sort none = .ok rows
  nodup   : rows.Nodup
  mem_iff {r : RecordRow} : r ∈ rows ↔
    r ∈ t.records ∧ r.scope = scope ∧ r.entityName = name ∧ c.selects r.data
  ordered : rows.Pairwise (RecordRow.Precedes · sort ·)
  counted : t.count scope name filter = .ok rows.length

structure IsPaged (t : Tables) (scope name : String) (filter : Option Predicate)
    (sort : Option SortKey) (rows : List RecordRow) (n : Nat) : Prop where
  -- The pages that have rows are the first ones.
  found {p : Nat} : 1 ≤ p → canPage (.nth n p) →
    ∃ part, t.find scope name filter sort (some (.nth n p)) = .ok part ∧
      (part ≠ [] ↔ p ≤ rows.length ⌈/⌉ n)
  -- One after the other they are the list.
  joined : (∀ p, 1 ≤ p → p ≤ rows.length ⌈/⌉ n → canPage (.nth n p)) →
    ∃ parts, (List.range' 1 (rows.length ⌈/⌉ n)).mapM
        (fun p => t.find scope name filter sort (some (.nth n p))) = .ok parts ∧
      parts.flatten = rows
  -- A page is said to be followed by another one if one that follows has rows.
  told {p : Nat} : 1 ≤ p → n < 2 ^ 53 → rows.length < 2 ^ 53 →
    ∃ info next, Listing.pageInfo rows.length (some (.nth n p)) = .ok info ∧
      info.get? "hasNextPage" = some (.bool next) ∧
      (next ↔ ∃ q > p, ∃ part,
        t.find scope name filter sort (some (.nth n q)) = .ok part ∧ part ≠ [])

theorem mem_selection_iff {r : RecordRow} : r ∈ t.selection scope name c ↔
    r ∈ t.records ∧ r.scope = scope ∧ r.entityName = name ∧ c.selects r.data := by
  simp only [selection, recordsOf, List.mem_filter, Bool.and_eq_true, beq_iff_eq, and_assoc]

theorem canSort_of_isSortable (h : ∀ r ∈ rows, ∀ k ∈ sort, r.IsSortable k.field) :
    canSort rows sort := by
  simp only [canSort, List.all_eq_true]
  intro r hr
  cases sort
  case none => rfl
  case some k =>
    have hk := h r hr k rfl
    simp [Document.canRead, isPath_of_isPlainName hk.plain, hk.finite]

theorem find_of_prepare (hc : prepare filter = .ok c)
    (hr : ∀ r ∈ t.recordsOf scope name, ¬c.Stumbles r.data false)
    (hs : canSort (t.selection scope name c) sort) (page : Option Page) :
    t.find scope name filter sort page =
      if page.all canPage then
        .ok (pageOf page ((t.selection scope name c).mergeSort (RecordRow.inOrder sort)))
      else .error .overflow := by
  have hr : ¬∃ r ∈ t.recordsOf scope name, c.Stumbles r.data false := by simpa using hr
  rw [find_eq hc, if_neg hr, if_pos hs]
  cases page.all canPage <;> rfl

theorem canPage_nth (hp : 1 ≤ p) (hn : n < 2 ^ 53) (ho : (p - 1) * n < 2 ^ 53) :
    canPage (.nth n p) := by
  have hl : (Page.nth n p).limit = n := rfl
  simp only [canPage, isWord, hl, Page.nth_offset hp, Int.pow_eq, Bool.and_eq_true,
    decide_eq_true_eq]
  omega

theorem isPaged_of_find (hn : 1 ≤ n) (h : ∀ page, t.find scope name filter sort page =
    if page.all canPage then .ok (pageOf page rows) else .error .overflow) :
    t.IsPaged scope name filter sort rows n where
  found hp hc := ⟨_, by rw [h, Option.all_some, if_pos hc], pageOf_nth_ne_nil_iff hn hp⟩
  joined hc := by
    refine ⟨_, List.mapM_eq_ok_iff_forall₂.mpr (List.forall₂_map_right_iff.mpr
      (List.forall₂_same.mpr fun p hp => ?_)), flatten_pageOf_ceilDiv hn⟩
    have ⟨hl, hu⟩ := List.mem_range'_1.mp hp
    rw [h, Option.all_some, if_pos (hc p hl (by omega))]
  told {p} hp hnb htb := by
    have ⟨info, hi, hv⟩ := Listing.pageInfo_nth (p := p) hn htb hnb
    refine ⟨info, _, hi, hv, ?_⟩
    rw [decide_eq_true_iff]
    constructor
    case mp =>
      intro hl
      have ho : ¬rows.length ≤ n * p := (ceilDiv_le_iff_le_mul hn).not.mp (by omega)
      have hc : canPage (.nth n (p + 1)) :=
        canPage_nth (by omega) hnb (by rw [Nat.add_sub_cancel, mul_comm]; omega)
      refine ⟨p + 1, by omega, _, by rw [h, Option.all_some, if_pos hc], ?_⟩
      exact (pageOf_nth_ne_nil_iff hn (by omega)).mpr (by omega)
    case mpr =>
      intro ⟨q, hq, part, hf, hr⟩
      rw [h] at hf
      split at hf <;> cases hf
      have := (pageOf_nth_ne_nil_iff hn (by omega)).mp hr
      omega

-- The records that a query asks for, whatever was stored and in whatever order, if the store can
-- evaluate the query: they are listed, counted and shown page by page alike.
theorem exists_isListing (hn : (t.records.map (·.id)).Nodup) (hc : prepare filter = .ok c)
    (hr : ∀ r ∈ t.recordsOf scope name, ¬c.Stumbles r.data false)
    (hs : ∀ r ∈ t.recordsOf scope name, ∀ k ∈ sort, r.IsSortable k.field) :
    ∃ rows, t.IsListing scope name filter sort c rows ∧
      ∀ n, 1 ≤ n → t.IsPaged scope name filter sort rows n := by
  have hs : ∀ r ∈ t.selection scope name c, ∀ k ∈ sort, r.IsSortable k.field :=
    fun r hm => hs r (List.mem_of_mem_filter hm)
  have hn : ((t.selection scope name c).map (·.id)).Nodup :=
    hn.sublist ((List.filter_sublist.trans List.filter_sublist).map _)
  have hf := find_of_prepare hc hr (canSort_of_isSortable hs)
  have hp := List.mergeSort_perm (t.selection scope name c) (RecordRow.inOrder sort)
  refine ⟨_, ?_, fun n hn => isPaged_of_find hn hf⟩
  exact {
    found   := hf none
    nodup   := hp.nodup_iff.mpr hn.of_map
    mem_iff := hp.mem_iff.trans mem_selection_iff
    ordered := RecordRow.pairwise_precedes hn hs
    counted := by rw [count_eq hc, if_neg (by simpa using hr), hp.length_eq] }

def marked : Tables where
  records :=
    [⟨"a", "e", "home", "note", [("mark", .text "good")], "2024-01-01", "2024-01-01"⟩,
     ⟨"b", "e", "home", "note", [("mark", .int 1)], "2024-01-02", "2024-01-02"⟩,
     ⟨"c", "e", "home", "note", [("mark", .bool true)], "2024-01-02", "2024-01-02"⟩,
     ⟨"d", "e", "home", "note", [("mark", .real (.finite true 1 2))], "2024-01-03", "2024-01-03"⟩,
     ⟨"e", "f", "work", "note", [("mark", .list [])], "2024-01-03", "2024-01-03"⟩,
     ⟨"f", "e", "home", "note", [("mark", .null)], "2024-01-05", "2024-01-05"⟩,
     ⟨"g", "e", "home", "note", [("seen", .bool true)], "2024-01-05", "2024-01-05"⟩]

theorem exists_isListing_marked :
    (marked.records.map (·.id)).Nodup ∧
      prepare (some (.present "mark")) = .ok (.isPresent "mark") ∧
      (∀ r ∈ marked.recordsOf "home" "note", ¬(Clause.isPresent "mark").Stumbles r.data false) ∧
      (∀ r ∈ marked.recordsOf "home" "note", ∀ k ∈ some (SortKey.mk "mark" .descending),
        r.IsSortable k.field) ∧
      ∃ rows,
        marked.IsListing "home" "note" (some (.present "mark")) (some ⟨"mark", .descending⟩)
          (.isPresent "mark") rows ∧
        ∀ n, 1 ≤ n →
          marked.IsPaged "home" "note" (some (.present "mark")) (some ⟨"mark", .descending⟩)
            rows n :=
  have hn : (marked.records.map (·.id)).Nodup := by decide +kernel
  have hr : ∀ r ∈ marked.recordsOf "home" "note",
      ¬(Clause.isPresent "mark").Stumbles r.data false := by
    decide +kernel
  have hs : ∀ r ∈ marked.recordsOf "home" "note", ∀ k ∈ some (SortKey.mk "mark" .descending),
      r.IsSortable k.field := by
    decide +kernel
  ⟨hn, rfl, hr, hs, exists_isListing hn rfl hr hs⟩

end Tables

end EntityCatalog
