import EntityCatalog.Entity
import EntityCatalog.Proofs.Text.Blank
import EntityCatalog.Proofs.Text.Context
import EntityCatalog.Proofs.Text.Split
import Mathlib

namespace EntityCatalog.Text

variable {b c x : Char} {cs l r u v w before after : List Char}

theorem endsBlank_append (h : cs ≠ []) : endsBlank (u ++ cs) = endsBlank cs := by
  rw [endsBlank, endsBlank, List.getLast?_append_of_ne_nil _ h]

theorem not_startsBlank_of_forall (h : ∀ c ∈ cs, ¬isBlank c) : ¬startsBlank cs := by
  cases cs
  case nil => decide
  case cons c cs => simpa [startsBlank] using h c List.mem_cons_self

theorem not_endsBlank_of_forall (h : ∀ c ∈ cs, ¬isBlank c) : ¬endsBlank cs := by
  rcases List.eq_nil_or_concat cs with rfl | ⟨cs, c, rfl⟩
  case inl => decide
  case inr => simpa [endsBlank] using h c (by simp)

def blankCodes : List Nat :=
  List.range' 9 5 ++ List.range' 0x1c 5 ++ [0x85, 0xa0, 0x1680] ++ List.range' 0x2000 11 ++
    [0x2028, 0x2029, 0x202f, 0x205f, 0x3000]

theorem toNat_mem_blankCodes (h : isBlank c) : c.toNat ∈ blankCodes := by
  simp only [isBlank, Bool.or_eq_true, Bool.and_eq_true, decide_eq_true_eq, beq_iff_eq] at h
  simp only [blankCodes, List.mem_append, List.mem_range'_1, List.mem_cons, List.not_mem_nil,
    or_false]
  omega

theorem uncased_of_mem_blankCodes : ∀ n ∈ blankCodes, isCased (.ofNat n) = false ∧
    isCaseIgnorable (.ofNat n) = false ∧ IsSmall (.ofNat n) ∧ ¬(Char.ofNat n).isAlpha := by
  decide +kernel

theorem uncased_of_isBlank (h : isBlank b) :
    isCased b = false ∧ isCaseIgnorable b = false ∧ IsSmall b ∧ ¬b.isAlpha := by
  have hb := uncased_of_mem_blankCodes _ (toNat_mem_blankCodes h)
  rwa [Char.ofNat_toNat] at hb

theorem endsWord_of_isBlank (h : isBlank b) : EndsWord b :=
  ⟨(uncased_of_isBlank h).1, (uncased_of_isBlank h).2.1⟩

theorem isSmall_of_isBlank (h : isBlank b) : IsSmall b := (uncased_of_isBlank h).2.2.1

theorem lower_append_of_isBlank (h : isBlank b) : lower (u ++ b :: v) = lower u ++ b :: lower v :=
  (endsWord_of_isBlank h).lower_append (isSmall_of_isBlank h)

theorem ne_blank_of_mem_lowerTable : ∀ m ∈ lowerTable, ∀ n ∈ blankCodes,
    n < m.2.lower ∨ m.2.lower + (m.2.last - m.1) < n := by
  decide +kernel

theorem lowerChar_eq_self_of_isBlank (hc : ¬isAscii c) (hi : c ≠ 'İ') (h : isBlank (lowerChar c)) :
    lowerChar c = c := by
  by_contra hn
  have ⟨m, hm, hx, hl, _, he⟩ := exists_run_of_lowerChar_ne hc hi hn
  have := ne_blank_of_mem_lowerTable m hm _ (toNat_mem_blankCodes h)
  omega

theorem isOwnLower_of_isBlank (h : isBlank b) : IsOwnLower b where
  notAlpha := (uncased_of_isBlank h).2.2.2
  notSigma := by constructor <;> (rintro rfl; exact absurd h (by decide))
  notDot   := by rintro rfl; exact absurd h (by decide)
  alone    := by rintro c hc hi rfl; exact lowerChar_eq_self_of_isBlank hc hi h

theorem not_isBlank_of_mem_lower (h : ∀ c ∈ cs, ¬isBlank c) : ∀ c ∈ lower cs, ¬isBlank c :=
  fun c hc hb => h c ((isOwnLower_of_isBlank hb).mem_of_mem_lowerAux hc) hb

theorem lowerAt_ne_nil : lowerAt before c after ≠ [] := by
  unfold lowerAt
  repeat' split
  all_goals simp

theorem lower_ne_nil (h : cs ≠ []) : lower cs ≠ [] := by
  cases cs
  case nil => exact absurd rfl h
  case cons c cs => exact List.append_ne_nil_of_left_ne_nil lowerAt_ne_nil _

theorem not_isBlank_of_mem_lowerAt (h : ¬isBlank c) : ∀ x ∈ lowerAt before c after, ¬isBlank x :=
  fun _ hx hb => h ((isOwnLower_of_isBlank hb).eq_of_mem_lowerAt hx ▸ hb)

-- A text in lower case begins and ends with white space only where the text itself does.
theorem not_startsBlank_lower (h : ¬startsBlank cs) : ¬startsBlank (lower cs) := by
  cases cs
  case nil => exact h
  case cons c cs =>
    have hc : ¬isBlank c := by simpa [startsBlank] using h
    exact not_startsBlank_append lowerAt_ne_nil
      (not_startsBlank_of_forall (not_isBlank_of_mem_lowerAt hc))

theorem not_endsBlank_lower (h : ¬endsBlank cs) : ¬endsBlank (lower cs) := by
  rcases List.eq_nil_or_concat cs with rfl | ⟨cs, c, rfl⟩
  case inl => exact h
  case inr =>
    have hc : ¬isBlank c := by simpa [endsBlank] using h
    obtain ⟨p, hp⟩ := exists_lowerAux_append [] cs [c]
    have hl : lower (cs.concat c) = p ++ lowerAt (cs.reverse ++ []) c [] := by
      simpa [lower, lowerAux] using hp
    rw [hl, endsBlank_append lowerAt_ne_nil]
    exact not_endsBlank_of_forall (not_isBlank_of_mem_lowerAt hc)

theorem lowerAux_eq_self (h : ∀ c ∈ cs, IsSmall c) : lowerAux before cs = cs := by
  induction cs generalizing before
  case nil => rfl
  case cons c cs hi =>
    have ⟨hc, hcs⟩ := List.forall_mem_cons.mp h
    rw [lowerAux, lowerAt_of_isSmall hc, hi hcs, List.singleton_append]

theorem lower_lower : lower (lower cs) = lower cs :=
  lowerAux_eq_self fun _ => isSmall_of_mem_lowerAux

def words (cs : List Char) : List (List Char) := (cs.splitOnP isBlank).filter (!·.isEmpty)

structure IsGap (r : List Char) : Prop where
  nonempty : r ≠ []
  blank    : ∀ c ∈ r, isBlank c

-- All texts are made of a part without white space, and then a blank and another text.
@[elab_as_elim]
theorem wordInduction {P : List Char → Prop} (cs : List Char)
    (last : ∀ w, (∀ c ∈ w, ¬isBlank c) → P w)
    (more : ∀ w b cs, (∀ c ∈ w, ¬isBlank c) → isBlank b → P cs → P (w ++ b :: cs)) : P cs := by
  -- The part before the text is what has been read of its first word.
  suffices h : ∀ w, (∀ c ∈ w, ¬isBlank c) → P (w ++ cs) from h [] (by simp)
  induction cs
  case nil => simpa using last
  case cons c cs hi =>
    intro w hw
    by_cases hc : isBlank c
    case pos => exact more w c cs hw hc (hi [] (by simp))
    case neg =>
      have hw : ∀ x ∈ w ++ [c], ¬isBlank x := by
        intro x hx
        rcases List.mem_append.mp hx with hx | hx
        · exact hw x hx
        · exact List.mem_singleton.mp hx ▸ hc
      simpa using hi (w ++ [c]) hw

@[simp] theorem words_nil : words [] = [] := rfl

-- All that is said of words comes of the next two.
theorem words_append (h : isBlank b) : words (u ++ b :: v) = words u ++ words v := by
  rw [words, List.splitOnP_append_cons u v h, List.filter_append]
  rfl

theorem words_eq_singleton (hn : w ≠ []) (h : ∀ c ∈ w, ¬isBlank c) : words w = [w] := by
  rw [words, List.splitOnP_eq_singleton fun c hc => by simpa using h c hc]
  simp [hn]

theorem words_append_left (h : ∀ c ∈ l, isBlank c) : words (l ++ cs) = words cs := by
  induction l
  case nil => rfl
  case cons b l hi =>
    have ⟨hb, hl⟩ := List.forall_mem_cons.mp h
    have hc : words (b :: (l ++ cs)) = words (l ++ cs) := words_append (u := []) hb
    rw [List.cons_append, hc, hi hl]

theorem words_gap (h : IsGap r) : words (u ++ r ++ v) = words u ++ words v := by
  obtain ⟨b, r, rfl⟩ := List.exists_cons_of_ne_nil h.nonempty
  have ⟨hb, hr⟩ := List.forall_mem_cons.mp h.blank
  rw [List.append_assoc, List.cons_append, words_append hb, words_append_left hr]

theorem words_around (hl : ∀ c ∈ l, isBlank c) (hr : ∀ c ∈ r, isBlank c) :
    words (l ++ cs ++ r) = words cs := by
  rw [List.append_assoc, words_append_left hl]
  by_cases hn : r = []
  case pos => rw [hn, List.append_nil]
  case neg => simpa using words_gap (u := cs) (v := []) ⟨hn, hr⟩

theorem exists_around_strip (cs : List Char) :
    ∃ l r, (∀ c ∈ l, isBlank c) ∧ (∀ c ∈ r, isBlank c) ∧ l ++ strip cs ++ r = cs := by
  refine ⟨cs.takeWhile isBlank, (cs.dropWhile isBlank).rtakeWhile isBlank,
    fun _ => List.mem_takeWhile_imp, fun _ => List.mem_rtakeWhile_imp, ?_⟩
  rw [strip_eq, List.append_assoc, List.rdropWhile_append_rtakeWhile,
    List.takeWhile_append_dropWhile]

theorem words_strip : words (strip cs) = words cs := by
  have ⟨l, r, hl, hr, he⟩ := exists_around_strip cs
  rw [← words_around hl hr, he]

theorem words_ne_nil (hc : c ∈ cs) (h : ¬isBlank c) : words cs ≠ [] := by
  induction cs using wordInduction
  case last w hw => simp [words_eq_singleton (List.ne_nil_of_mem hc) hw]
  case more w b cs hw hb hi =>
    rw [words_append hb]
    rcases List.mem_append.mp hc with hc | hc
    case inl => simp [words_eq_singleton (List.ne_nil_of_mem hc) hw]
    case inr =>
      have hc := (List.mem_cons.mp hc).resolve_left (by rintro rfl; exact h hb)
      exact List.append_ne_nil_of_right_ne_nil _ (hi hc)

theorem words_ne_nil_of_not_endsBlank (hn : cs ≠ []) (h : ¬endsBlank cs) : words cs ≠ [] := by
  refine words_ne_nil (List.getLast_mem hn) ?_
  simpa [endsBlank, List.getLast?_eq_some_getLast hn] using h

theorem not_isBlank_of_mem_words (hw : w ∈ words cs) : ∀ c ∈ w, ¬isBlank c := by
  have of_word {u : List Char} (hu : ∀ c ∈ u, ¬isBlank c) (hw : w ∈ words u) :
      ∀ c ∈ w, ¬isBlank c := by
    by_cases hn : u = []
    case pos => simp [hn] at hw
    case neg =>
      rw [words_eq_singleton hn hu, List.mem_singleton] at hw
      exact hw ▸ hu
  induction cs using wordInduction
  case last u hu => exact of_word hu hw
  case more u b cs hu hb hi =>
    rw [words_append hb] at hw
    exact (List.mem_append.mp hw).elim (of_word hu) hi

-- Each word is lower-cased without regard to the others.
theorem words_lower : words (lower cs) = (words cs).map lower := by
  have of_word {w : List Char} (hw : ∀ c ∈ w, ¬isBlank c) :
      words (lower w) = (words w).map lower := by
    by_cases hn : w = []
    case pos => rw [hn]; rfl
    case neg =>
      rw [words_eq_singleton hn hw,
        words_eq_singleton (lower_ne_nil hn) (not_isBlank_of_mem_lower hw)]
      rfl
  induction cs using wordInduction
  case last w hw => exact of_word hw
  case more w b cs hw hb hi =>
    rw [lower_append_of_isBlank hb, words_append hb, words_append hb, List.map_append, hi,
      of_word hw]

theorem joinBlanks_append (h : ∀ c ∈ w, ¬isBlank c) :
    joinBlanks (w ++ cs) = w ++ joinBlanks cs := by
  induction w
  case nil => rfl
  case cons c w hi =>
    have ⟨hc, hw⟩ := List.forall_mem_cons.mp h
    simp only [List.cons_append, joinBlanks.eq_def (_ :: _), hc, hi hw]
    rfl

theorem joinBlanks_cons (h : isBlank b) :
    joinBlanks (b :: cs) = if startsBlank cs then joinBlanks cs else '_' :: joinBlanks cs := by
  rw [joinBlanks.eq_def]
  cases cs
  case nil => simp [h, startsBlank, joinBlanks]
  case cons c cs =>
    simp only [h, startsBlank, List.head?_cons, Option.any_some, if_true]
    rfl

theorem joinBlanks_eq (h : ¬endsBlank cs) : joinBlanks cs =
    if startsBlank cs then '_' :: joinWith '_' (words cs) else joinWith '_' (words cs) := by
  induction cs using wordInduction
  case last w hw =>
    rw [if_neg (not_startsBlank_of_forall hw)]
    have hj : joinBlanks (w ++ []) = w ++ joinBlanks [] := joinBlanks_append hw
    rw [List.append_nil, joinBlanks, List.append_nil] at hj
    by_cases hn : w = []
    case pos => rw [hn]; rfl
    case neg => rw [hj, words_eq_singleton hn hw, joinWith]
  case more w b cs hw hb hi =>
    have hn : cs ≠ [] := by
      rintro rfl
      exact h (by simp [endsBlank, hb])
    have he : ¬endsBlank cs := by
      rwa [List.append_cons, endsBlank_append hn] at h
    have hj : joinBlanks (b :: cs) = '_' :: joinWith '_' (words cs) := by
      rw [joinBlanks_cons hb, hi he]
      split <;> rfl
    rw [joinBlanks_append hw, hj, words_append hb]
    by_cases hs : w = []
    case pos => simp [hs, startsBlank, hb]
    case neg =>
      have hw' : ¬startsBlank (w ++ b :: cs) :=
        not_startsBlank_append hs (not_startsBlank_of_forall hw)
      rw [if_neg hw', words_eq_singleton hs hw, List.singleton_append,
        joinWith_cons (words_ne_nil_of_not_endsBlank hn he)]

end EntityCatalog.Text
