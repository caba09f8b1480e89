import EntityCatalog.Filter.Shape
import EntityCatalog.Proofs.Numeric.Integer
import EntityCatalog.Proofs.Text.Ascii
import EntityCatalog.Proofs.Text.Digit
import Mathlib

namespace EntityCatalog.Shape

open Text Binary64

inductive IsSign : Bool → List Char → Prop
  | none : IsSign false []
  | plus : IsSign false ['+']
  | minus : IsSign true ['-']

inductive Writes : List Char → Int → Prop
  | mk {negative : Bool} {sign ds : List Char} :
    IsSign negative sign →
    ds ≠ [] →
    (∀ c ∈ ds, isAsciiDigit c) →
    Writes (sign ++ ds) (signed negative (natOfDigits ds))

variable {c d : Char} {cs ds rest sign : List Char} {negative : Bool} {i : Int} {m : Moment}

theorem not_isNumberGap_of_isAsciiDigit (h : isAsciiDigit c) : isNumberGap c = false := by
  obtain ⟨hl, hu⟩ := toNat_of_isAsciiDigit h
  simp only [Char.reduceToNat] at hl hu
  simp only [isNumberGap, isBlank, Bool.and_eq_false_iff, Bool.or_eq_false_iff,
    decide_eq_false_iff_not, beq_eq_false_iff_ne]
  omega

-- Gaps are taken away around a text, but not between two characters that are none.
theorem exists_trimGaps (hc : isNumberGap c = false) (hd : isNumberGap d = false) :
    ∃ rest', trimGaps (c :: cs ++ d :: rest) = c :: cs ++ d :: rest' := by
  have hl : (c :: cs ++ d :: rest).dropWhile isNumberGap = c :: cs ++ d :: rest :=
    List.dropWhile_cons_of_neg (by simp [hc])
  have hr : (c :: cs ++ d :: rest).reverse = rest.reverse ++ d :: (c :: cs).reverse := by simp
  rw [trimGaps, hl, hr, List.dropWhile_append]
  split
  case isTrue =>
    refine ⟨[], ?_⟩
    rw [List.dropWhile_cons_of_neg (by simp [hd])]
    simp
  case isFalse => exact ⟨(rest.reverse.dropWhile isNumberGap).reverse, by simp⟩

theorem isDecimal_of_isAsciiDigit (h : isAsciiDigit c) : isDecimal c := by
  obtain ⟨_, hu⟩ := toNat_of_isAsciiDigit h
  have hc : c.toNat < 0x80 := by simp only [Char.reduceToNat] at hu; omega
  rw [isDecimal, if_pos hc]
  exact h

theorem numeral?_hyphen (h : ∀ c ∈ cs, isAsciiDigit c) : numeral? (cs ++ '-' :: rest) = none := by
  have ht : (cs ++ '-' :: rest).takeWhile isDecimal = cs := by
    rw [List.takeWhile_append_of_pos fun c hc => isDecimal_of_isAsciiDigit (h c hc)]
    simp [isDecimal]
  have hr : (digitRun (cs ++ '-' :: rest)).2 = cs.length := by simp [digitRun, ht]
  unfold numeral?
  simp only [hr, List.drop_left]
  exact ite_self _

theorem exists_of_read? (h : Iso.read? cs = some m) :
    ∃ y₁ y₂ y₃ y₄ rest, cs = y₁ :: [y₂, y₃, y₄] ++ '-' :: rest ∧
      ∀ c ∈ y₁ :: [y₂, y₃, y₄], isAsciiDigit c := by
  unfold Iso.read? Iso.readDate at h
  simp only [bind, Option.bind_eq_some_iff] at h
  obtain ⟨_, h, _⟩ := h
  split at h <;> try contradiction
  case h_1 y₁ y₂ y₃ y₄ _ _ _ _ _ =>
    split at h <;> try contradiction
    case isTrue hd =>
      refine ⟨y₁, y₂, y₃, y₄, _, rfl, ?_⟩
      simp_all

theorem digitRun_of_isAsciiDigit (h : ∀ c ∈ ds, isAsciiDigit c) :
    digitRun ds = (natOfDigits ds, ds.length) := by
  have ht : ds.takeWhile isDecimal = ds :=
    List.takeWhile_eq_self_iff.mpr fun c hc => isDecimal_of_isAsciiDigit (h c hc)
  have hv : ds.map (fun c => (digitValue? c).getD 0) = ds.map fun c => c.toNat - '0'.toNat := by
    refine List.map_congr_left fun c hc => ?_
    obtain ⟨_, hu⟩ := toNat_of_isAsciiDigit (h c hc)
    have ha : c.toNat < 0x80 := by simp only [Char.reduceToNat] at hu; omega
    simp [digitValue?, ha, h c hc]
  simp [digitRun, ht, hv, natOfDigits, List.foldl_map]

theorem numeral?_of_isAsciiDigit (hn : ds ≠ []) (h : ∀ c ∈ ds, isAsciiDigit c) :
    numeral? ds = some ⟨natOfDigits ds, 0⟩ := by
  have hl : ds.length ≠ 0 := mt List.length_eq_zero_iff.mp hn
  simp [numeral?, digitRun_of_isAsciiDigit h, hl, exponent?]

theorem number?_of_trimGaps {body : List Char} (hs : IsSign negative sign) (hc : isAsciiDigit c)
    (ht : trimGaps cs = sign ++ c :: body) :
    number? cs = (numeral? (c :: body)).bind fun n =>
      let x := ofDecimal negative n.digits n.exponent
      if x.isFinite then some x else none := by
  cases hs
  case none =>
    have hm : c ≠ '-' := by rintro rfl; simp [isAsciiDigit] at hc
    have hp : c ≠ '+' := by rintro rfl; simp [isAsciiDigit] at hc
    simp [number?, ht, hm, hp]
  all_goals simp [number?, ht]

theorem head?_lower (ha : isAscii c) (hc : c.toLower = c) : (lower (c :: cs)).head? = some c := by
  simp [lower, lowerAux, lowerAt_of_ascii ha, hc]

theorem lower_ne {word : List Char} (hs : IsSign negative sign) (hc : isAsciiDigit c)
    (hw : word.head?.any Char.isAlpha) : lower (sign ++ c :: cs) ≠ word := by
  rintro rfl
  cases hs
  case none =>
    obtain ⟨hl, hu⟩ := toNat_of_isAsciiDigit hc
    simp only [Char.reduceToNat] at hl hu
    have ha : isAscii c := by simp only [isAscii, decide_eq_true_eq]; omega
    have hn : ¬c.isAlpha := by
      simp only [Char.isAlpha, Char.isUpper, Char.isLower, ge_iff_le, UInt32.le_iff_toNat_le,
        Bool.or_eq_true, Bool.and_eq_true, decide_eq_true_eq]
      change ¬((65 ≤ c.toNat ∧ c.toNat ≤ 90) ∨ (97 ≤ c.toNat ∧ c.toNat ≤ 122))
      omega
    have hlc : c.toLower = c :=
      Char.toLower_eq_of_not_isUpper fun h => hn (by simp [Char.isAlpha, h])
    rw [List.nil_append, head?_lower ha hlc] at hw
    exact hn hw
  all_goals
    rw [List.cons_append, head?_lower (by decide) (by decide)] at hw
    exact absurd hw (by decide)

theorem value_of_number? {body : List Char} (hs : IsSign negative sign) (hc : isAsciiDigit c)
    (he : cs = sign ++ c :: body) (hn : number? cs = none) :
    value cs = ((Iso.read? cs).map .moment).getD (.text (String.ofList cs)) := by
  have ht : lower cs ≠ "true".toList := he ▸ lower_ne hs hc rfl
  have hf : lower cs ≠ "false".toList := he ▸ lower_ne hs hc rfl
  simp only [value, hn, ht, hf, if_false]
  cases Iso.read? cs <;> rfl

theorem number?_of_read? (h : Iso.read? cs = some m) : number? cs = none := by
  obtain ⟨y₁, y₂, y₃, y₄, rest, rfl, hd⟩ := exists_of_read? h
  have hy := hd y₁ List.mem_cons_self
  have hg : isNumberGap '-' = false := by decide
  obtain ⟨rest', hr⟩ := @exists_trimGaps y₁ '-' [y₂, y₃, y₄] rest
    (not_isNumberGap_of_isAsciiDigit hy) hg
  rw [number?_of_trimGaps .none hy hr]
  change (numeral? (y₁ :: [y₂, y₃, y₄] ++ '-' :: rest')).bind _ = none
  rw [numeral?_hyphen hd]
  rfl

-- What is read as a date is told as one: it is no number, and no word.
theorem value_of_read? (h : Iso.read? cs = some m) : value cs = .moment m := by
  obtain ⟨y₁, _, _, _, _, he, hd⟩ := exists_of_read? h
  rw [value_of_number? .none (hd y₁ List.mem_cons_self) he (number?_of_read? h), h]
  rfl

namespace Writes

theorem toNat_of_mem (h : Writes cs i) (hc : c ∈ cs) :
    c.toNat = 43 ∨ c.toNat = 45 ∨ 48 ≤ c.toNat ∧ c.toNat ≤ 57 := by
  obtain ⟨hs, _, hd⟩ := h
  rcases List.mem_append.mp hc with hc | hc
  case inl =>
    cases hs
    case none => cases hc
    case plus => rw [List.mem_singleton.mp hc]; decide
    case minus => rw [List.mem_singleton.mp hc]; decide
  case inr => exact .inr (.inr (toNat_of_isAsciiDigit (hd c hc)))

theorem not_isBlank_of_mem (h : Writes cs i) (hc : c ∈ cs) : isBlank c = false := by
  have hn := h.toNat_of_mem hc
  simp only [isBlank, Bool.or_eq_false_iff, Bool.and_eq_false_iff, decide_eq_false_iff_not,
    beq_eq_false_iff_ne]
  omega

theorem trimGaps_eq (h : Writes cs i) : trimGaps cs = cs := by
  have hg : ∀ cs : List Char, (∀ c ∈ cs, isNumberGap c = false) →
      cs.dropWhile isNumberGap = cs := by
    intro cs hc
    cases cs
    case nil => rfl
    case cons c cs => exact List.dropWhile_cons_of_neg (by simp [hc c List.mem_cons_self])
  have hc : ∀ c ∈ cs, isNumberGap c = false := by
    intro c hc
    simp [isNumberGap, h.not_isBlank_of_mem hc]
  rw [trimGaps, hg cs hc, hg cs.reverse (by simpa using hc), List.reverse_reverse]

theorem number?_eq (h : Writes cs i) :
    ∃ x, Rounds i x ∧ number? cs = if x.isFinite then some x else none := by
  have ht := h.trimGaps_eq
  obtain ⟨hs, hn, hd⟩ := h
  refine ⟨_, rounds_ofDecimal, ?_⟩
  obtain ⟨c, ds, rfl⟩ := List.exists_cons_of_ne_nil hn
  rw [number?_of_trimGaps hs (hd c List.mem_cons_self) ht, numeral?_of_isAsciiDigit hn hd]
  rfl

theorem read?_eq_none (h : Writes cs i) : Iso.read? cs = none := by
  rw [Option.eq_none_iff_forall_ne_some]
  intro m hm
  obtain ⟨y₁, y₂, y₃, y₄, rest, he, hy⟩ := exists_of_read? hm
  obtain ⟨hs, hn, hd⟩ := h
  have hh : ¬isAsciiDigit '-' := by decide
  have hp : ¬isAsciiDigit '+' := by decide
  cases hs
  case none =>
    rw [List.nil_append] at he
    have hy : '-' ∈ y₁ :: [y₂, y₃, y₄] ++ '-' :: rest := by simp
    exact hh (hd '-' (he ▸ hy))
  all_goals
    obtain ⟨rfl, _⟩ := List.cons_eq_cons.mp he
    have := hy _ List.mem_cons_self
    contradiction

theorem value_eq (h : Writes cs i) (hn : number? cs = none) :
    value cs = .text (String.ofList cs) := by
  have hr := h.read?_eq_none
  obtain ⟨hs, hc, hd⟩ := h
  obtain ⟨c, ds, rfl⟩ := List.exists_cons_of_ne_nil hc
  rw [value_of_number? hs (hd c List.mem_cons_self) rfl hn, hr]
  rfl

end Writes

end EntityCatalog.Shape
