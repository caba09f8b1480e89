import EntityCatalog.Proofs.Store.Cell
import EntityCatalog.Proofs.Store.Like
import EntityCatalog.Proofs.Store.Clause
import EntityCatalog.Proofs.Text.Context
import EntityCatalog.Proofs.Value.Same
import EntityCatalog.Store.Tables

namespace EntityCatalog

namespace Value

variable {a v : Value}

theorem isWord_of_scalar {n : Int} (h : (int n).isScalar) : isWord n := by
  simp only [isScalar, decide_eq_true_eq] at h
  simp only [isWord, Bool.and_eq_true, decide_eq_true_eq]
  have : (Int.pow 2 63) = 2 ^ 63 := by rfl
  omega

def exactCell : Value → Cell
  | null => .null
  | bool b => .int (if b then 1 else 0)
  | int n => .int n
  | real x => .real x
  | text s => .text s
  | v => .text (v.toJson .dense)

theorem ofBound_of_scalar (h : v.isScalar) : Cell.ofBound v = v.exactCell := by
  cases v <;> try rfl
  case int => simp [Cell.ofBound, Cell.ofValue, Cell.ofInt, isWord_of_scalar h, exactCell]
  case real x =>
    cases x
    case nan => cases h
    all_goals rfl

theorem ofValue_of_storable (h : a.isStorable) : Cell.ofValue a = a.exactCell := by
  cases a <;> try rfl
  case int => simp [Cell.ofValue, Cell.ofInt, isWord_of_scalar h, exactCell]
  case text => simp [Cell.ofValue, Cell.beforeNul_eq h, exactCell]

theorem exactCell_isNull (hn : a ≠ .null) : a.exactCell.isNull = false := by
  cases a <;> first | rfl | contradiction

theorem ne_null_of_scalar (hv : v.isScalar) : v ≠ .null := by
  rintro rfl; cases hv

theorem matchesSame_bool {b b' : Bool} : (bool b).matchesSame (bool b') = decide (b = b') := by
  cases b <;> cases b' <;>
    simp [matchesSame, isBool, same, position?, Position.ofInt_same_ofInt]

theorem guarded_same (ha : a.isStorable) (hv : v.isScalar) (hb : ¬v.isBool) :
    ((Predicate.guardKinds v).contains a.kind && a.exactCell.same v.exactCell) =
      a.matchesSame v := by
  cases v <;> simp [isScalar, isBool] at hv hb <;> cases a <;> (try cases ha) <;>
    simp [Predicate.guardKinds, kind, matchesSame, isBool, same, position?, exactCell, Cell.same,
      Cell.position?]

end Value

namespace Comparison

variable {order : Comparison} {a v : Value}

theorem holdsBetween_of_position {x y : Cell} {p q : Position} (hx : x.position? = some p)
    (hy : y.position? = some q) : order.holdsBetween x y = order.holdsAt p q := by
  have hl {x y : Cell} {p q : Position} (hx : x.position? = some p) (hy : y.position? = some q) :
      x.lt y = p.lt q ∧ x.same y = p.same q := by
    cases x <;> cases y <;> simp_all [Cell.position?, Cell.lt, Cell.same]
  cases order <;> simp [holdsBetween, holdsAt, Cell.le, Position.le, hl hx hy, hl hy hx]

theorem holdsBetween_text {s t : String} :
    order.holdsBetween (.text s) (.text t) = order.holdsFor s t := by
  have hle (s t : String) : (decide (s < t) || s == t) = !decide (t < s) := by
    rw [Bool.eq_iff_iff]
    simp [-String.lt_iff_ltb, le_iff_lt_or_eq]
  cases order <;>
    simp [-String.lt_iff_ltb, holdsBetween, holdsFor, Cell.le, Cell.lt, Cell.same, hle]

theorem guarded_holds (ha : a.isStorable) (hv : v.isScalar) (hb : ¬v.isBool) :
    ((Predicate.guardKinds v).contains a.kind && order.holdsBetween a.exactCell v.exactCell) =
      order.holds a v := by
  cases v <;> simp [Value.isScalar, Value.isBool] at hv hb <;> cases a <;> (try cases ha) <;>
    simp [Predicate.guardKinds, Value.kind, holds, Value.position?, Value.exactCell,
      holdsBetween_text] <;> exact holdsBetween_of_position rfl rfl

end Comparison

namespace Predicate

variable {p : Predicate} {d : Document} {path : String} {a v : Value}

theorem not_isKind_of_absent (hd : d.isStorable) (h : d.present? path = none) :
    ¬(Clause.isKind path (guardKinds v)).selects d := by
  rw [Clause.selects_iff, Clause.truth]
  rcases Document.kind?_of_absent hd h with hk | hk <;> rw [hk] <;>
    cases v <;> simp [guardKinds]

theorem truth_isKind (hd : d.isStorable) (h : d.present? path = some a) {kinds : List Kind} :
    (Clause.isKind path kinds).truth d = some (kinds.contains a.kind) := by
  simp [Clause.truth, Document.kind?_of_present hd h]

theorem truth_isPresent (hd : d.isStorable) :
    (Clause.isPresent path).truth d = some (d.present? path).isSome := by
  cases h : d.present? path
  case none => simp [Clause.truth, Document.cell_of_absent hd h, Cell.isNull]
  case some a =>
    obtain ⟨hg, hn⟩ := Document.present?_eq_some_iff.mp h
    have ha := Document.isStorable_of_get? hd hg
    simp [Clause.truth, Document.cell_of_present hd h, Value.ofValue_of_storable ha,
      Value.exactCell_isNull hn]

-- Behind a guard that a member passes, what is known of it decides.
theorem truth_guarded (hd : d.isStorable) (h : d.present? path = some a) {kinds : List Kind}
    {c : Clause} {b : Bool} (hc : c.truth d = some b) :
    (Clause.allOf [.isKind path kinds, c]).truth d = some (kinds.contains a.kind && b) := by
  rw [Clause.truth_allOf, Clause.truthOfAll, Clause.truthOfAll, Clause.truthOfAll,
    truth_isKind hd h, hc, Clause.conj_true_right, Clause.conj_some_some]

theorem truth_tested (hd : d.isStorable) (h : d.present? path = some a) (hv : v.isScalar)
    {test : Cell → Cell → Bool} :
    Clause.tested test (d.cell path) (.ofBound v) = some (test a.exactCell v.exactCell) := by
  have ⟨hg, hn⟩ := Document.present?_eq_some_iff.mp h
  have ha := Document.isStorable_of_get? hd hg
  simp [Clause.tested, Document.cell_of_present hd h, Value.ofValue_of_storable ha,
    Value.ofBound_of_scalar hv, Value.exactCell_isNull hn,
    Value.exactCell_isNull (Value.ne_null_of_scalar hv)]

theorem truth_equals (hd : d.isStorable) (h : d.present? path = some a) (hv : v.isScalar) :
    (Clause.equals path v).truth d = some (a.exactCell.same v.exactCell) := by
  rw [Clause.truth, truth_tested hd h hv]

theorem truth_compares {order : Comparison} (hd : d.isStorable) (h : d.present? path = some a)
    (hv : v.isScalar) :
    (Clause.compares order path v).truth d =
      some (order.holdsBetween a.exactCell v.exactCell) := by
  rw [Clause.truth, truth_tested hd h hv]

-- On a member that is there an equality is known, so its opposite is known as well.
theorem truth_sameClause (hd : d.isStorable) (h : d.present? path = some a) (hv : v.isScalar) :
    (sameClause path v).truth d = some (a.matchesSame v) := by
  have ha := Document.isStorable_of_get? hd (Document.present?_eq_some_iff.mp h).1
  by_cases hb : v.isBool
  case pos =>
    cases v <;> cases hb
    simp only [sameClause, truth_isKind hd h]
    cases a
    case bool => simp [guardKinds, Value.kind, Value.matchesSame_bool]
    all_goals simp [guardKinds, Value.kind, Value.matchesSame, Value.isBool]
  case neg =>
    have hs : sameClause path v = .allOf [.isKind path (guardKinds v), .equals path v] := by
      cases v <;> simp [Value.isBool] at hb <;> rfl
    rw [hs, truth_guarded hd h (truth_equals hd h hv), Value.guarded_same ha hv hb]

theorem not_sameClause_of_absent (hd : d.isStorable) (h : d.present? path = none) :
    ¬(sameClause path v).selects d := by
  have hk := not_isKind_of_absent (v := v) hd h
  cases v <;> simp_all [sameClause, Clause.selects_allOf_iff]

-- Texts that both sides lower-case in the same way, and that the store reads to their end.
def isSearchable (s : String) : Bool := s.toList.all fun c => Text.isAscii c && c.toNat ≠ 0

theorem lower_of_searchable {s : String} (h : isSearchable s) :
    Text.lower s.toList = Like.fold s.toList := by
  refine Text.lower_of_ascii fun c hc => ?_
  have := List.all_eq_true.mp h c hc
  simp_all

theorem takeWhile_searchPattern {part : Part} {s : String} (h : isSearchable s) :
    (searchPattern part s.toList).takeWhile (·.toNat ≠ 0) =
      Like.pattern part (Like.fold s.toList) := by
  have hn : '\x00' ∉ s.toList := fun hm => by simpa using List.all_eq_true.mp h _ hm
  rw [searchPattern_eq,
    Cell.takeWhile_of_nul_not_mem (Like.nul_not_mem_pattern (Text.nul_not_mem_lower hn)),
    lower_of_searchable h]

theorem truth_like {part : Part} {s : String} (hd : d.isStorable)
    (h : d.present? path = some (.text s)) (hv : isSearchable v.display) (hs : isSearchable s) :
    (Clause.like path (searchPattern part v.display.toList)).truth d =
      some (textHas part v (.text s)) := by
  have ha := Document.isStorable_of_get? hd (Document.present?_eq_some_iff.mp h).1
  have hc : d.cell path = .text s := by
    rw [Document.cell_of_present hd h, Value.ofValue_of_storable ha, Value.exactCell]
  simp only [Clause.truth, hc, takeWhile_searchPattern hv, Like.accepts_pattern_eq,
    Like.fold_fold, textHas, lower_of_searchable hv, lower_of_searchable hs]

theorem selects_sameClause (hd : d.isStorable) (hv : v.isScalar) :
    (sameClause path v).selects d = (d.present? path).any (·.matchesSame v) := by
  cases h : d.present? path
  case none => simpa using not_sameClause_of_absent hd h
  case some => simp [Clause.selects, truth_sameClause hd h hv]

theorem selects_differs (hd : d.isStorable) {vs : List Value} (hv : ∀ v ∈ vs, v.isScalar) :
    (Clause.allOf (.isPresent path :: vs.map fun v => .negated (sameClause path v))).selects d =
      (d.present? path).any fun a => !vs.any a.matchesSame := by
  rw [Bool.eq_iff_iff, Clause.selects_allOf_iff]
  cases h : d.present? path
  case none => simp [Clause.selects, truth_isPresent hd, h]
  case some a =>
    have hn : ∀ v ∈ vs, (Clause.negated (sameClause path v)).selects d = !a.matchesSame v := by
      intro v hm
      simp [Clause.selects, Clause.truth, truth_sameClause hd h (hv v hm)]
    simp +contextual [Clause.selects_iff.mpr, truth_isPresent hd, h, hn]

theorem selects_likeClause {part : Part} (hd : d.isStorable) (hv : isSearchable v.display)
    (hs : ∀ s, d.get? path = some (.text s) → isSearchable s) :
    (likeClause part path v).selects d = (d.present? path).any (textHas part v) := by
  cases h : d.present? path
  case none =>
    have hk := not_isKind_of_absent (v := .text "") hd h
    rw [likeClause, Bool.eq_iff_iff, Clause.selects_allOf_iff]
    simp_all [guardKinds]
  case some a =>
    have hg := (Document.present?_eq_some_iff.mp h).1
    have ha := Document.isStorable_of_get? hd hg
    cases a
    case text s =>
      rw [likeClause, Clause.selects, truth_guarded hd h (truth_like hd h hv (hs s hg))]
      simp [Value.kind]
    case date | moment => cases ha
    all_goals
      rw [likeClause, Bool.eq_iff_iff, Clause.selects_allOf_iff]
      simp [Clause.selects_iff, truth_isKind hd h, Value.kind, textHas]

theorem selects_orderClause {order : Comparison} (hd : d.isStorable) (hv : v.isScalar) :
    (orderClause order path v).selects d = (d.present? path).any (order.holds · v) := by
  by_cases hb : v.isBool
  case pos =>
    cases v <;> cases hb
    have ho (a : Value) (b : Bool) : order.holds a (.bool b) = false := by cases a <;> rfl
    simp [orderClause, Value.isBool, Clause.selects, Clause.truth, ho, Option.any]
    cases d.present? path <;> rfl
  case neg =>
    rw [orderClause, if_neg hb]
    cases h : d.present? path
    case none =>
      have hk := not_isKind_of_absent (v := v) hd h
      rw [Bool.eq_iff_iff, Clause.selects_allOf_iff]
      simp_all
    case some a =>
      have ha := Document.isStorable_of_get? hd (Document.present?_eq_some_iff.mp h).1
      rw [Clause.selects, truth_guarded hd h (truth_compares hd h hv),
        Comparison.guarded_holds ha hv hb]
      simp

mutual

-- Whether the store takes a predicate exactly, for a document: paths are plain and values are
-- scalars, and where one text is looked for in another, both are of ASCII.
def fits (d : Document) : Predicate → Bool
  | .always => true
  | .all ps | .any ps => allFit d ps
  | .equals path v | .notEquals path v | .compares _ path v => isPlainName path && v.isScalar
  | .contains _ path v =>
    isPlainName path && v.isScalar && isSearchable v.display &&
      match d.get? path with
      | some (.text s) => isSearchable s
      | _ => true
  | .anyOf path vs | .noneOf path vs => isPlainName path && vs.all Value.isScalar
  | .absent path | .present path => isPlainName path
  | .foreignEquals .. => false

def allFit (d : Document) : List Predicate → Bool
  | [] => true
  | p :: ps => p.fits d && allFit d ps

end

theorem selects_any_sameClause (hd : d.isStorable) {vs : List Value} (hv : ∀ v ∈ vs, v.isScalar) :
    (Clause.anyOf (vs.map (sameClause path))).selects d =
      (d.present? path).any fun a => vs.any a.matchesSame := by
  rw [Bool.eq_iff_iff, Clause.selects_anyOf_iff]
  cases h : d.present? path
  case none =>
    have hn v := not_sameClause_of_absent (v := v) hd h
    simp_all
  case some a =>
    have hs : ∀ v ∈ vs, (sameClause path v).selects d = a.matchesSame v := by
      intro v hm
      simp [selects_sameClause hd (hv v hm), h]
    simp only [List.mem_map, exists_exists_and_eq_and, Option.any_some, List.any_eq_true]
    exact exists_congr fun v => and_congr_right fun hm => by rw [hs v hm]

theorem scalar_of_mem_values_sameClause {w : Value} (hv : v.isScalar)
    (h : w ∈ (sameClause path v).values) : w.isScalar := by
  by_cases hb : v.isBool
  case pos => cases v <;> cases hb; simp [sameClause, Clause.values] at h
  case neg =>
    have hs : sameClause path v = .allOf [.isKind path (guardKinds v), .equals path v] := by
      cases v <;> simp [Value.isBool] at hb <;> rfl
    obtain ⟨c, hc, hw⟩ := Clause.mem_values_allOf (hs ▸ h)
    grind [Clause.values]

structure Decides (c : Clause) (d : Document) (b : Bool) : Prop where
  selects : c.selects d = b
  scalars : ∀ v ∈ c.values, v.isScalar

namespace Decides

theorem equals (hd : d.isStorable) (hv : v.isScalar) :
    Decides (sameClause path v) d ((d.present? path).any (·.matchesSame v)) where
  selects := selects_sameClause hd hv
  scalars _ := scalar_of_mem_values_sameClause hv

theorem anyOf (hd : d.isStorable) {vs : List Value} (hv : ∀ v ∈ vs, v.isScalar) :
    Decides (.anyOf (vs.map (sameClause path))) d
      ((d.present? path).any fun a => vs.any a.matchesSame) where
  selects := selects_any_sameClause hd hv
  scalars w h := by
    have ⟨_, hc, hw⟩ := Clause.mem_values_anyOf h
    have ⟨v, hm, hc⟩ := List.mem_map.mp hc
    exact scalar_of_mem_values_sameClause (hv v hm) (hc ▸ hw)

theorem noneOf (hd : d.isStorable) {vs : List Value} (hv : ∀ v ∈ vs, v.isScalar) :
    Decides (.allOf (.isPresent path :: vs.map fun v => .negated (sameClause path v))) d
      ((d.present? path).any fun a => !vs.any a.matchesSame) where
  selects := selects_differs hd hv
  scalars w h := by
    obtain ⟨c, hc, hw⟩ := Clause.mem_values_allOf h
    rcases List.mem_cons.mp hc with rfl | hc
    case inl => simp [Clause.values] at hw
    case inr =>
      obtain ⟨v, hm, hc⟩ := List.mem_map.mp hc
      rw [← hc, Clause.values] at hw
      exact scalar_of_mem_values_sameClause (hv v hm) hw

theorem contains {part : Part} (hd : d.isStorable) (hv : isSearchable v.display)
    (hs : ∀ s, d.get? path = some (.text s) → isSearchable s) :
    Decides (likeClause part path v) d ((d.present? path).any (textHas part v)) where
  selects := selects_likeClause hd hv hs
  scalars w h := by
    obtain ⟨c, hc, hw⟩ := Clause.mem_values_allOf h
    grind [Clause.values]

theorem compares {order : Comparison} (hd : d.isStorable) (hv : v.isScalar) :
    Decides (orderClause order path v) d ((d.present? path).any (order.holds · v)) where
  selects := selects_orderClause hd hv
  scalars w h := by
    unfold orderClause at h
    split at h
    case isTrue => simp [Clause.values] at h
    case isFalse =>
      obtain ⟨c, hc, hw⟩ := Clause.mem_values_allOf h
      grind [Clause.values]

theorem present (hd : d.isStorable) :
    Decides (.isPresent path) d (d.present? path).isSome where
  selects := by simp [Clause.selects, truth_isPresent hd]
  scalars := by simp [Clause.values]

theorem absent (hd : d.isStorable) : Decides (.isNull path) d (d.present? path).isNone where
  selects := by
    have h : (Clause.isPresent path).truth d = some (d.present? path).isSome := truth_isPresent hd
    simp only [Clause.truth, Option.some.injEq] at h
    cases hp : d.present? path <;> simp_all [Clause.selects, Clause.truth]
  scalars := by simp [Clause.values]

end Decides

mutual

-- One case for each kind of predicate: the leaves are told above, and a tree is told by its parts.
theorem exists_decides (hd : d.isStorable) : (p : Predicate) → p.fits d →
    ∃ c, p.clause? = some c ∧ Decides c d (p.holds d)
  | .always, _ => ⟨_, rfl, rfl, by simp [Clause.values]⟩
  | .all ps, h => by
    have ⟨cs, hc, hv, ha, _⟩ := exists_decides_all hd ps h
    refine ⟨.allOf cs, by simp [clause?, hc], ?_, fun v h => ?_⟩
    · rw [Bool.eq_iff_iff, Clause.selects_allOf_iff, ha, holds]
    · exact (Clause.mem_values_allOf h).elim fun c h => hv c h.1 v h.2
  | .any ps, h => by
    have ⟨cs, hc, hv, _, ha⟩ := exists_decides_all hd ps h
    refine ⟨.anyOf cs, by simp [clause?, hc], ?_, fun v h => ?_⟩
    · rw [Bool.eq_iff_iff, Clause.selects_anyOf_iff, ha, holds]
    · exact (Clause.mem_values_anyOf h).elim fun c h => hv c h.1 v h.2
  | .equals _ v, h => ⟨_, rfl, .equals hd (by simp_all [fits])⟩
  | .notEquals path v, h => by
    have hv : ∀ w ∈ [v], w.isScalar := by simp_all [fits]
    have hn := @Decides.noneOf d path hd [v] hv
    exact ⟨_, rfl, by simpa [holds] using hn⟩
  | .contains _ _ v, h => by
    refine ⟨_, rfl, .contains hd (by simp_all [fits]) fun s hs => ?_⟩
    simp_all [fits]
  | .compares _ _ v, h => ⟨_, rfl, .compares hd (by simp_all [fits])⟩
  | .anyOf _ vs, h => ⟨_, rfl, .anyOf hd (by simp_all [fits])⟩
  | .noneOf _ vs, h => ⟨_, rfl, .noneOf hd (by simp_all [fits])⟩
  | .absent _, _ => ⟨_, rfl, .absent hd⟩
  | .present _, _ => ⟨_, rfl, .present hd⟩
  | .foreignEquals .., h => by cases h

theorem exists_decides_all (hd : d.isStorable) : (ps : List Predicate) → allFit d ps →
    ∃ cs, clauses? ps = some cs ∧ (∀ c ∈ cs, ∀ v ∈ c.values, v.isScalar) ∧
      ((∀ c ∈ cs, c.selects d) ↔ holdsAll d ps) ∧ ((∃ c ∈ cs, c.selects d) ↔ holdsAny d ps)
  | [], _ => ⟨[], rfl, by simp [holdsAll, holdsAny]⟩
  | p :: ps, h => by
    simp only [allFit, Bool.and_eq_true] at h
    have ⟨c, hc, hp⟩ := exists_decides hd p h.1
    have ⟨cs, hcs, hv, ha, hx⟩ := exists_decides_all hd ps h.2
    refine ⟨c :: cs, by simp [clauses?, hc, hcs], ?_, ?_, ?_⟩
    · exact List.forall_mem_cons.mpr ⟨hp.scalars, hv⟩
    · simp [holdsAll, hp.selects, ha]
    · simp [holdsAny, hp.selects, hx]

end

theorem bindFailure?_of_scalar (hv : v.isScalar) : v.bindFailure? = none := by
  cases v
  case int => simp [Value.bindFailure?, Value.isWord_of_scalar hv]
  case list | object => cases hv
  all_goals rfl

-- The store takes every predicate that fits, and selects by it the documents that it holds of.
theorem selects_eq_holds (hp : p.fits d) (hd : d.isStorable) :
    ∃ c, Tables.clauseOf (some p) = .ok c ∧ c.selects d = p.holds d := by
  have ⟨c, hc, h⟩ := exists_decides hd p hp
  have hb : c.values.findSome? Value.bindFailure? = none :=
    List.findSome?_eq_none_iff.mpr fun v hv => bindFailure?_of_scalar (h.scalars v hv)
  exact ⟨c, by simp [Tables.clauseOf, hc, hb], h.selects⟩

def mixed : Predicate :=
  .all [.any [.notEquals "n" (.bool true), .absent "s"], .noneOf "t" [.int 7, .text "x"],
    .contains .start "s" (.text "A_"), .compares .less "n" (.real (.finite false 3 (-1)))]

def mixedDocument : Document :=
  [("n", .int 1), ("s", .text "a_b"), ("t", .list [.int 7]), ("u", .null)]

theorem selects_mixed : mixed.fits mixedDocument ∧ mixedDocument.isStorable ∧
    ∃ c, Tables.clauseOf (some mixed) = .ok c ∧
      c.selects mixedDocument = mixed.holds mixedDocument :=
  have hp : mixed.fits mixedDocument := by decide +kernel
  have hd : mixedDocument.isStorable := by decide +kernel
  ⟨hp, hd, selects_eq_holds hp hd⟩

end Predicate

end EntityCatalog
