import EntityCatalog.Proofs.Numeric.Quotient
import Mathlib

namespace EntityCatalog

namespace Page

variable {limits : PageLimits} {page limit : Option Int} {p : Page}

structure IsWithin (p : Page) (limits : PageLimits) : Prop where
  first   : 1 ≤ p.number
  least   : 1 ≤ p.limit
  largest : p.limit ≤ limits.largest
  before  : p.offset = (p.number - 1) * p.limit

theorem isWithin_ofRequest (h : 1 ≤ limits.largest) :
    (ofRequest limits page limit).IsWithin limits where
  first   := le_max_left _ _
  least   := le_min (le_max_left _ _) h
  largest := min_le_right _ _
  before  := rfl

theorem IsWithin.ofRequest_eq (h : p.IsWithin limits) :
    ofRequest limits (some p.number) (some p.limit) = p := by
  simp only [ofRequest, Option.getD_some, max_eq_right h.first, max_eq_right h.least,
    min_eq_left h.largest, ← h.before]

end Page

namespace Listing

variable {total limit : Int}

-- The least number of pages on which all records have a place.
def IsPageCount (total limit pages : Int) : Prop := IsLeast {n | total ≤ n * limit} pages

theorem isPageCount_ceilDiv {total limit : Nat} (hl : 0 < limit) :
    IsPageCount total limit (total ⌈/⌉ limit : Nat) := by
  have hc (n : Nat) : total ⌈/⌉ limit ≤ n ↔ (total : Int) ≤ n * limit := by
    rw [ceilDiv_le_iff_le_mul hl, mul_comm, ← Nat.cast_mul, Nat.cast_le]
  refine ⟨(hc _).mp le_rfl, fun n hn => ?_⟩
  have hn : (total : Int) ≤ n * limit := hn
  -- No pages less than none have a place for a record.
  have h0 : 0 ≤ n := by
    by_contra h
    have := mul_neg_of_neg_of_pos (not_le.mp h) (Int.natCast_pos.mpr hl)
    omega
  obtain ⟨n, rfl⟩ := Int.eq_ofNat_of_zero_le h0
  exact Int.ofNat_le.mpr ((hc n).mpr hn)

theorem IsPageCount.lt_iff {pages n : Int} (h : IsPageCount total limit pages) (hl : 1 ≤ limit) :
    n < pages ↔ n * limit < total := by
  constructor
  case mp => exact fun hn => not_le.mp fun ht => hn.not_ge (h.2 ht)
  case mpr =>
    refine fun ht => not_le.mp fun hn => ht.not_ge ?_
    calc total ≤ pages * limit := h.1
      _ ≤ n * limit := mul_le_mul_of_nonneg_right hn (by omega)

theorem exists_pageCount (ht : 0 ≤ total) (hl : 1 ≤ limit) (htb : total < 2 ^ 53)
    (hlb : limit < 2 ^ 53) : ∃ pages, pageCount total limit = .ok pages ∧
      IsPageCount total limit pages := by
  obtain ⟨t, rfl⟩ := Int.eq_ofNat_of_zero_le ht
  obtain ⟨n, rfl⟩ := Int.eq_ofNat_of_zero_le (by omega : 0 ≤ limit)
  have hn : 0 < n := by omega
  exact ⟨_, pageCount_eq hn (by omega) (by omega), isPageCount_ceilDiv hn⟩

structure Tells (info : Document) (total : Int) (p : Page) : Prop where
  pages    : ∃ n, info.get? "totalPages" = some (.int n) ∧ IsPageCount total p.limit n
  next     : info.get? "hasNextPage" = some (.bool (p.number * p.limit < total))
  previous : info.get? "hasPrevPage" = some (.bool (decide (0 < total ∧ 1 < p.number)))

theorem exists_pageInfo_tells {p : Page} (ht : 0 ≤ total) (hl : 1 ≤ p.limit)
    (htb : total < 2 ^ 53) (hlb : p.limit < 2 ^ 53) :
    ∃ info, pageInfo total (some p) = .ok info ∧ Tells info total p := by
  obtain ⟨n, hn, hc⟩ := exists_pageCount ht hl htb hlb
  have h0 : 0 < n ↔ 0 < total := by simpa using hc.lt_iff (n := 0) hl
  simp only [pageInfo, hn, bind, Except.bind]
  refine ⟨_, rfl, ⟨n, rfl, hc⟩, ?next, ?previous⟩
  case next => simp [Document.get?, List.lookup, hc.lt_iff hl]
  case previous => simp [Document.get?, List.lookup, h0]

-- What is told of a page is exact, whatever page it is; and what is asked for is moved into the
-- limits once and for all.
theorem pageInfo_exact :
    (∀ total (p : Page), 0 ≤ total → total < 2 ^ 53 → 1 ≤ p.limit → p.limit < 2 ^ 53 →
      ∃ info, pageInfo total (some p) = .ok info ∧ Tells info total p) ∧
    ∀ (limits : PageLimits) (page limit : Option Int), 1 ≤ limits.largest →
      ∃ p, Page.ofRequest limits page limit = p ∧ p.IsWithin limits ∧
        Page.ofRequest limits (some p.number) (some p.limit) = p := by
  refine ⟨fun total p ht htb hl hlb => ?_, fun limits page limit hl => ?_⟩
  case refine_1 => exact exists_pageInfo_tells ht hl htb hlb
  case refine_2 =>
    have hp : (Page.ofRequest limits page limit).IsWithin limits := Page.isWithin_ofRequest hl
    exact ⟨_, rfl, hp, hp.ofRequest_eq⟩

theorem pageInfo_exact_full :
    (∃ info, pageInfo (2 ^ 53 - 1) (some ⟨1, 2 ^ 53 - 2, 0⟩) = .ok info ∧
      Tells info (2 ^ 53 - 1) ⟨1, 2 ^ 53 - 2, 0⟩ ∧
      info.get? "totalPages" = some (.int 2) ∧ info.get? "hasNextPage" = some (.bool true)) ∧
    ∃ p, Page.ofRequest {} (some (-3)) (some 500) = p ∧ p.IsWithin {} := by
  obtain ⟨hi, hr⟩ := pageInfo_exact
  obtain ⟨info, ho, ht⟩ := hi (2 ^ 53 - 1) ⟨1, 2 ^ 53 - 2, 0⟩ (by decide) (by decide) (by decide)
    (by decide)
  obtain ⟨p, hp, hw, _⟩ := hr {} (some (-3)) (some 500) (by decide)
  refine ⟨⟨info, ho, ht, ?_, ht.next⟩, p, hp, hw⟩
  obtain ⟨n, hn, hc⟩ := ht.pages
  have h2 : IsPageCount (2 ^ 53 - 1) (2 ^ 53 - 2) 2 :=
    ⟨by decide, fun m hm => by have : (2 ^ 53 - 1 : Int) ≤ m * (2 ^ 53 - 2) := hm; omega⟩
  rw [hn, hc.unique h2]

end Listing

end EntityCatalog
