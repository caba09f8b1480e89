import EntityCatalog.Proofs.Calendar.Order
import EntityCatalog.Proofs.Predicate.Relation
import EntityCatalog.Proofs.Store.Paging
import Mathlib

namespace EntityCatalog

def Direction.Relates {α : Type} [LE α] (direction : Direction) (a b : α) : Prop :=
  match direction with
  | ascending => a ≤ b
  | descending => b ≤ a

namespace Moment

variable {a b : Moment} {cs ds : List Char}

theorem Crosses.symm (h : a.Crosses b) : b.Crosses a := by
  obtain ⟨ha, hb, hs, hf⟩ := h
  exact ⟨hb, ha, hs.symm, fun h => hf h.symm⟩

theorem crosses_comm : a.Crosses b ↔ b.Crosses a := ⟨.symm, .symm⟩

theorem lt_iff (ha : a.canonical? = some cs) (hb : b.canonical? = some ds)
    (h : a.offset.isSome = b.offset.isSome) :
    String.ofList cs < String.ofList ds ↔
      if a.Crosses b then b.instant < a.instant else a.instant < b.instant := by
  rw [String.lt_iff_toList_lt, String.toList_ofList, String.toList_ofList,
    canonical?_lt_iff ha hb h]

theorem le_iff (ha : a.canonical? = some cs) (hb : b.canonical? = some ds)
    (h : a.offset.isSome = b.offset.isSome) :
    String.ofList cs ≤ String.ofList ds ↔
      if a.Crosses b then b.instant ≤ a.instant else a.instant ≤ b.instant := by
  rw [← not_lt, lt_iff hb ha h.symm]
  simp only [crosses_comm]
  split <;> exact not_lt

theorem holds_iff {order : Comparison} {path : String} {d : Document}
    (ha : a.canonical? = some cs) (hb : b.canonical? = some ds)
    (h : a.offset.isSome = b.offset.isSome) (hd : d.get? path = some (.text (String.ofList cs))) :
    (Predicate.compares order path (.text (String.ofList ds))).holds d ↔
      if a.Crosses b then order.Relates b.instant a.instant
      else order.Relates a.instant b.instant := by
  have hp : d.present? path = some (.text (String.ofList cs)) := by simp [Document.present?, hd]
  rw [Predicate.holds, hp, Option.any_some, Comparison.holds]
  cases order <;> simp only [Comparison.holdsFor, Comparison.Relates, Bool.not_eq_true',
    decide_eq_true_eq, decide_eq_false_iff_not, not_lt]
  case less => exact lt_iff ha hb h
  case lessOrEqual => exact le_iff ha hb h
  case greater => simpa only [crosses_comm] using lt_iff hb ha h.symm
  case greaterOrEqual => simpa only [crosses_comm] using le_iff hb ha h.symm

theorem toNat_ne_zero_of_mem (h : a.canonical? = some cs) {c : Char} (hc : c ∈ cs) :
    c.toNat ≠ 0 := by
  have hp : ∀ w n, ∀ c ∈ Date.padded w n, c.toNat ≠ 0 := by
    intro w n c hc
    have hl := (Text.toNat_of_isAsciiDigit (Date.isAsciiDigit_of_mem_padded hc)).1
    simp only [Char.reduceToNat] at hl
    omega
  obtain ⟨u, zone, rfl, hz, _⟩ := exists_shown h
  have hl : ∀ c ∈ u.localText, c.toNat ≠ 0 := by
    unfold localText microText
    split <;> simp only [Date.text, clockText, List.append_nil, List.append_assoc, List.cons_append,
      List.forall_mem_append, List.forall_mem_cons] <;>
      and_intros <;> first | exact hp _ _ | decide
  rcases List.mem_append.mp hc with hc | hc
  case inl => exact hl c hc
  case inr =>
    generalize (a.offset.map fun _ => (0 : Int)) = offset at hz
    cases hz
    case none => cases hc
    case universal => rw [List.mem_singleton.mp hc]; decide

end Moment

namespace RecordRow

variable {a b r r' : RecordRow} {field : String} {direction : Direction} {rows : List RecordRow}

def Shows (r : RecordRow) (field : String) (m : Moment) : Prop :=
  ∃ cs, m.canonical? = some cs ∧ r.data.get? field = some (.text (String.ofList cs))

-- A record that has a date for a member, or nothing.
structure IsDated (r : RecordRow) (field : String) : Prop where
  finite : Value.allFinite r.data
  dated  : ∀ v, r.data.get? field = some v → v = .null ∨ ∃ m, r.Shows field m

theorem IsDated.isSortable (h : r.IsDated field) (hp : isPlainName field) :
    r.IsSortable field where
  plain    := hp
  finite   := h.finite
  sortable := by
    cases hv : r.data.get? field
    case none => rfl
    case some v =>
      rcases h.dated v hv with rfl | ⟨m, cs, hm, hs⟩
      case inl => rfl
      case inr =>
        cases hv.symm.trans hs
        simpa [Value.isSortable] using fun c hc => m.toNat_ne_zero_of_mem hm hc

theorem relates_of_rank_le
    (h : a.rank (some ⟨field, direction⟩) ≤ b.rank (some ⟨field, direction⟩)) :
    direction.Relates (a.place field) (b.place field) := by
  cases direction <;> simp only [rank, Prod.Lex.toLex_le_toLex, Direction.Relates] at h ⊢
  case ascending =>
    rcases h with h | ⟨h, _⟩
    case inl => exact h.le
    case inr => exact h.le
  case descending =>
    rcases h with h | ⟨_, h | ⟨h, _⟩⟩
    case inl => exact absurd h (lt_irrefl _)
    case inr.inl => exact (OrderDual.toDual_lt_toDual.mp h).le
    case inr.inr => exact (OrderDual.toDual_inj.mp h).ge

theorem pairwise_relates (hs : ∀ r ∈ rows, r.IsSortable field) :
    (rows.mergeSort (inOrder (some ⟨field, direction⟩))).Pairwise fun a b =>
      direction.Relates (a.place field) (b.place field) := by
  have hr : (rows.mergeSort (inOrder (some ⟨field, direction⟩))).Pairwise fun a b =>
      a.rank (some ⟨field, direction⟩) ≤ b.rank (some ⟨field, direction⟩) := by
    refine List.pairwise_mergeSort_of_key fun a ha b hb => ?_
    rw [inOrder_iff (by simpa using hs a ha) (by simpa using hs b hb), precedes_iff, not_lt]
  exact hr.imp relates_of_rank_le

theorem Shows.relates {m m' : Moment} (h : r.Shows field m) (h' : r'.Shows field m')
    (ho : m.offset.isSome = m'.offset.isSome)
    (hr : direction.Relates (r.place field) (r'.place field)) :
    if m.Crosses m' then direction.Relates m'.instant m.instant
    else direction.Relates m.instant m'.instant := by
  obtain ⟨cs, hm, hd⟩ := h
  obtain ⟨cs', hm', hd'⟩ := h'
  have hl : ∀ s t, Place.text s ≤ Place.text t ↔ s ≤ t := by
    intro s t
    rw [← not_lt, Place.text_lt_text, not_lt]
  simp only [place, hd, hd', Value.place] at hr
  cases direction <;> simp only [Direction.Relates, hl] at hr ⊢
  case ascending => exact (Moment.le_iff hm hm' ho).mp hr
  case descending =>
    simpa only [Moment.crosses_comm] using (Moment.le_iff hm' hm ho.symm).mp hr

end RecordRow

namespace Moment

-- Stored dates of one kind are told from each other, compared and sorted by their instants, the
-- right way around unless they cross.
theorem canonical?_chronology {a b : Moment} {cs ds : List Char} (ha : a.canonical? = some cs)
    (hb : b.canonical? = some ds) (h : a.offset.isSome = b.offset.isSome) :
    (String.ofList cs < String.ofList ds ↔
      if a.Crosses b then b.instant < a.instant else a.instant < b.instant) ∧
    (∀ order path (d : Document), d.get? path = some (.text (String.ofList cs)) →
      ((Predicate.compares order path (.text (String.ofList ds))).holds d ↔
        if a.Crosses b then order.Relates b.instant a.instant
        else order.Relates a.instant b.instant)) ∧
    ∀ (t : Tables) scope name filter c field direction,
      Tables.prepare filter = .ok c →
      (∀ r ∈ t.recordsOf scope name, ¬c.Stumbles r.data false) →
      isPlainName field → (∀ r ∈ t.recordsOf scope name, r.IsDated field) →
      ∃ rows, t.find scope name filter (some ⟨field, direction⟩) none = .ok rows ∧
        rows.Pairwise fun r r' => r.Shows field a → r'.Shows field b →
          if a.Crosses b then direction.Relates b.instant a.instant
          else direction.Relates a.instant b.instant := by
  refine ⟨lt_iff ha hb h, fun order path d hd => holds_iff ha hb h hd, ?_⟩
  intro t scope name filter c field direction hc hr hp hd
  have hs : ∀ r ∈ t.selection scope name c, ∀ k ∈ some (SortKey.mk field direction),
      r.IsSortable k.field := by
    intro r hm k hk
    cases hk
    exact (hd r (List.mem_of_mem_filter hm)).isSortable hp
  refine ⟨_, Tables.find_of_prepare hc hr (Tables.canSort_of_isSortable hs) none, ?_⟩
  exact (RecordRow.pairwise_relates fun r hm => hs r hm _ rfl).imp
    fun hr hra hrb => hra.relates hrb h hr

def morning : Moment := (Iso.read? "2024-01-02T08:20".toList).get (by decide +kernel)

def secondLater : Moment := { morning with micros := 30001500000, micros_lt := by decide }

def diary : Tables where
  records :=
    [⟨"a", "e", "home", "note", [("at", .text "2024-01-02T08:20:00")], "2024-01-03", "2024-01-03"⟩,
     ⟨"b", "e", "home", "note", [("at", .text "2024-01-02T08:20:01.500000")], "2024-01-02",
      "2024-01-02"⟩]

theorem canonical?_chronology_diary :
    "2024-01-02T08:20:00" < "2024-01-02T08:20:01.500000" ∧
      ∃ rows, diary.find "home" "note" none (some ⟨"at", .descending⟩) none = .ok rows ∧
        rows.Pairwise fun r r' => ¬(r.Shows "at" morning ∧ r'.Shows "at" secondLater) := by
  have hm : morning.canonical? = some "2024-01-02T08:20:00".toList := by decide +kernel
  have hl : secondLater.canonical? = some "2024-01-02T08:20:01.500000".toList := by decide +kernel
  have hc : ¬morning.Crosses secondLater := by decide +kernel
  have hi : morning.instant < secondLater.instant := by decide +kernel
  obtain ⟨hlt, _, hs⟩ := canonical?_chronology hm hl rfl
  simp only [hc, if_false] at hlt hs
  have hd : ∀ r ∈ diary.recordsOf "home" "note", r.IsDated "at" := by
    intro r hr
    have hr : r ∈ diary.records := List.mem_of_mem_filter hr
    simp only [diary, List.mem_cons, List.not_mem_nil, or_false] at hr
    rcases hr with rfl | rfl
    case inl =>
      refine ⟨rfl, fun v hv => .inr ⟨morning, _, hm, ?_⟩⟩
      rfl
    case inr =>
      refine ⟨rfl, fun v hv => .inr ⟨secondLater, _, hl, ?_⟩⟩
      rfl
  have hn : ∀ r ∈ diary.recordsOf "home" "note", ¬(Clause.constant true).Stumbles r.data false := by
    decide +kernel
  obtain ⟨rows, hf, hp⟩ := hs diary "home" "note" none _ "at" .descending rfl hn (by decide) hd
  refine ⟨hlt.mpr hi, rows, hf, hp.imp ?_⟩
  rintro r r' h ⟨ha, hb⟩
  exact not_le.mpr hi (h ha hb)

theorem not_canonical?_lt :
    ∃ (a b : Moment) (cs ds : List Char),
      a.canonical? = some cs ∧ b.canonical? = some ds ∧ a.offset.isSome ∧ b.offset.isSome ∧
        a.instant < b.instant ∧ ¬String.ofList cs < String.ofList ds :=
  ⟨{ morning with offset := some 0 },
    { morning with micros := 30000500000, offset := some 0, micros_lt := by decide },
    "2024-01-02T08:20:00Z".toList, "2024-01-02T08:20:00.500000Z".toList, by decide +kernel,
    by decide +kernel, rfl, rfl, by decide +kernel, by decide +kernel⟩

end Moment

end EntityCatalog
