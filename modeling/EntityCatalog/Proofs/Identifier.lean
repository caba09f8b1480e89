import EntityCatalog.Entity
import EntityCatalog.Proofs.Pattern.Run
import Mathlib

namespace EntityCatalog.IdKind

open Pattern

variable {k k' : IdKind} {kind digits s t : String}

structure IsDigits (digits : String) : Prop where
  length : digits.length = 16
  hex    : ∀ c ∈ digits.toList, c ∈ "0123456789abcdef".toList

def IsId (k : IdKind) (s : String) : Prop := ∃ digits, IsDigits digits ∧ s = k.idOf digits

theorem length_mark : k.mark.toList.length = 4 := by
  cases k <;> rfl

theorem eq_of_mark (h : k.mark.toList = k'.mark.toList) : k = k' := by
  cases k <;> cases k' <;> first | rfl | exact absurd h (by decide)

theorem ofName?_eq_some_iff : ofName? kind = some k ↔ kind = k.name := by
  unfold ofName?
  split
  case isTrue h => subst h; cases k <;> simp [name]
  case isFalse hd =>
    split
    case isTrue h => subst h; cases k <;> simp [name]
    case isFalse hr => cases k <;> simp [name, hd, hr]

theorem isIdOf_iff : isIdOf kind s ↔ ∃ k : IdKind, kind = k.name ∧ k.accepts s := by
  simp only [isIdOf, Option.any_eq_true, ofName?_eq_some_iff]

theorem isIdDigit_iff {c : Char} :
    isIdDigit c ↔ 48 ≤ c.toNat ∧ c.toNat ≤ 57 ∨ 97 ≤ c.toNat ∧ c.toNat ≤ 102 := by
  simp [isIdDigit, Char.le_def, UInt32.le_iff_toNat_le]

theorem isIdDigit_iff_mem {c : Char} : isIdDigit c ↔ c ∈ "0123456789abcdef".toList := by
  have hm : c ∈ "0123456789abcdef".toList ↔
      c.toNat ∈ "0123456789abcdef".toList.map Char.toNat := by
    simp only [List.mem_map, Char.toNat_inj, exists_eq_right]
  have hr : "0123456789abcdef".toList.map Char.toNat = List.range' 48 10 ++ List.range' 97 6 := rfl
  rw [isIdDigit_iff, hm, hr, List.mem_append, List.mem_range'_1, List.mem_range'_1]
  omega

theorem isDigits_iff :
    IsDigits digits ↔ digits.toList.length = 16 ∧ digits.toList.all isIdDigit := by
  simp only [List.all_eq_true, isIdDigit_iff_mem]
  exact ⟨fun h => ⟨h.length, h.hex⟩, fun h => ⟨h.1, h.2⟩⟩

namespace IsId

theorem length_toList (h : k.IsId t) : t.toList.length = 20 := by
  obtain ⟨digits, hd, rfl⟩ := h
  simp [idOf, length_mark, (isDigits_iff.mp hd).1]

theorem lineFeed_not_mem (h : k.IsId t) : '\n' ∉ t.toList := by
  obtain ⟨digits, hd, rfl⟩ := h
  have hk : '\n' ∉ k.mark.toList := by cases k <;> decide
  have hn : '\n' ∉ digits.toList := fun hm => absurd (hd.hex _ hm) (by decide)
  simpa [idOf] using ⟨hk, hn⟩

end IsId

theorem accepts_iff_take : k.accepts s ↔
    k.mark.toList <+: s.toList ∧
      (((s.toList.drop 4).take 16).length = 16 ∧ ((s.toList.drop 4).take 16).all isIdDigit) ∧
        (s.toList.drop 20 = [] ∨ s.toList.drop 20 = ['\n']) := by
  unfold accepts Text.after?
  by_cases hp : k.mark.toList <+: s.toList
  case neg => simp [hp]
  case pos => simp [hp, @length_mark k, List.drop_drop, and_assoc]

theorem exists_ending (h : s = t ∨ s = t ++ "\n") :
    ∃ e, (e = [] ∨ e = ['\n']) ∧ s.toList = t.toList ++ e := by
  rcases h with rfl | rfl
  case inl => exact ⟨[], .inl rfl, by simp⟩
  case inr => exact ⟨['\n'], .inr rfl, by simp⟩

theorem accepts_iff : k.accepts s ↔ ∃ t, k.IsId t ∧ (s = t ∨ s = t ++ "\n") := by
  have hl := @length_mark k
  rw [accepts_iff_take]
  constructor
  case mp =>
    rintro ⟨hp, hd, he⟩
    have hs : s.toList = k.mark.toList ++ ((s.toList.drop 4).take 16 ++ s.toList.drop 20) := by
      rw [show s.toList.drop 20 = (s.toList.drop 4).drop 16 by rw [List.drop_drop],
        List.take_append_drop, ← hl]
      exact (List.prefix_iff_eq_append.mp hp).symm
    refine ⟨_, ⟨String.ofList ((s.toList.drop 4).take 16), isDigits_iff.mpr ?_, rfl⟩, ?_⟩
    case refine_1 => simpa using hd
    case refine_2 =>
      rw [← String.toList_inj, ← String.toList_inj]
      exact he.imp (fun he => by simpa [idOf, he] using hs) fun he => by simpa [idOf, he] using hs
  case mpr =>
    rintro ⟨_, ⟨digits, hd, rfl⟩, he⟩
    obtain ⟨hn, hx⟩ := isDigits_iff.mp hd
    obtain ⟨e, he, hs⟩ := exists_ending he
    rw [idOf, String.toList_append, List.append_assoc] at hs
    have h4 : s.toList.drop 4 = digits.toList ++ e := by rw [hs, List.drop_left' hl]
    have h20 : s.toList.drop 20 = (s.toList.drop 4).drop 16 := by rw [List.drop_drop]
    rw [h20, h4, List.take_left' hn, List.drop_left' hn, hs]
    exact ⟨List.prefix_append .., ⟨hn, hx⟩, he⟩

-- The mark tells the kind.
theorem IsId.accepts_iff_eq (h : k.IsId t) : k'.accepts t ↔ k' = k := by
  constructor
  case mp =>
    intro ha
    obtain ⟨digits, _, rfl⟩ := h
    have hp : k'.mark.toList <+: (k.idOf digits).toList := (accepts_iff_take.mp ha).1
    rw [idOf, String.toList_append] at hp
    have hl : k'.mark.toList.length = k.mark.toList.length := length_mark.trans length_mark.symm
    have hp := List.prefix_of_prefix_length_le hp (List.prefix_append ..) hl.le
    exact eq_of_mark (hp.eq_of_length hl)
  case mpr =>
    rintro rfl
    exact accepts_iff.mpr ⟨t, h, .inl rfl⟩

-- Nothing stands around an accepted text in another one, but for a line break behind it.
theorem around_of_accepts {before after : String} (h : k.accepts s)
    (h' : k'.accepts (before ++ s ++ after)) : before = "" ∧ (after = "" ∨ after = "\n") := by
  obtain ⟨t, ht, hs⟩ := accepts_iff.mp h
  obtain ⟨t', ht', hs'⟩ := accepts_iff.mp h'
  obtain ⟨e, he, hs⟩ := exists_ending hs
  obtain ⟨e', he', hs'⟩ := exists_ending hs'
  have hl := ht.length_toList
  have hl' := ht'.length_toList
  rw [String.toList_append, String.toList_append, hs, List.append_assoc, List.append_assoc] at hs'
  have hn := congrArg List.length hs'
  simp only [List.length_append] at hn
  simp only [← String.toList_inj]
  change before.toList = [] ∧ (after.toList = [] ∨ after.toList = ['\n'])
  generalize before.toList = b, after.toList = a at hs' hn ⊢
  by_cases hb : b = []
  case pos =>
    subst hb
    rw [List.nil_append] at hs'
    have hj := List.append_inj_right hs' (hl.trans hl'.symm)
    rcases he with rfl | rfl <;> rcases he' with rfl | rfl <;> simp_all
  case neg =>
    -- One text ends in a digit then, and the other one in a line break.
    have hb := List.length_pos_iff.mpr hb
    rcases he' with rfl | rfl
    case inl => rw [List.length_nil] at hn; omega
    case inr =>
      rw [List.length_singleton] at hn
      have he : e = [] := List.length_eq_zero_iff.mp (by omega)
      have ha : a = [] := List.length_eq_zero_iff.mp (by omega)
      have hg := congrArg List.getLast? hs'
      rw [he, ha, List.append_nil, List.append_nil, List.getLast?_concat,
        List.getLast?_append_of_ne_nil _ (List.ne_nil_of_length_eq_add_one hl)] at hg
      exact absurd (List.mem_of_getLast? hg) ht.lineFeed_not_mem

def pattern (k : IdKind) : String := "^" ++ k.mark ++ "[0-9a-f]{16}$"

def program (k : IdKind) : Program where
  flags := []
  body := .anchor .lineStart :: (k.mark.toList.map fun c => .literal c.toNat) ++
    [.loop .greedy 16 (some 16) [.set false [.range 48 57, .range 97 102]], .anchor .lineEnd]

theorem compile_pattern : compile k.pattern = .ok k.program := by
  cases k <;> cbv

theorem inSet_digits {c : Char} :
    inSet [] false [.range 48 57, .range 97 102] c.toNat = isIdDigit c := by
  rw [Bool.eq_iff_iff, isIdDigit_iff]
  simp [inSet, casing_nil, Casing.fold, SetItem.contains]

theorem foundIn_program : k.program.foundIn s = k.accepts s := by
  have hr (i : Nat) : remaining s.toList.toArray i = s.toList.drop i := rfl
  have hn (h : ((s.toList.drop 4).take 16).length = 16) : 20 ≤ s.toList.toArray.size := by
    rw [List.length_take, List.length_drop] at h
    rw [List.size_toArray]
    omega
  rw [Bool.eq_iff_iff, accepts_iff_take, program, List.cons_append, foundIn_anchored,
    runAll_literals, length_mark, Nat.zero_add, runAll_loop_set]
  simp only [hr, List.drop_zero, inSet_digits]
  split
  case isFalse hm => exact iff_of_false nofun fun ha => hm ha.1
  case isTrue hm =>
    split
    case isFalse hd => exact iff_of_false nofun fun ha => hd ha.2.1
    case isTrue hd =>
      rw [runAll_lineEnd (hn hd.1), hr]
      split
      case isFalse he => exact iff_of_false nofun fun ha => he ha.2.2
      case isTrue he => exact iff_of_true rfl ⟨hm, hd, he⟩

def IsIdFor (kind s : String) : Prop := ∃ k : IdKind, kind = k.name ∧ k.IsId s

theorem isIdOf_iff_isIdFor :
    isIdOf kind s ↔ IsIdFor kind s ∨ ∃ t, IsIdFor kind t ∧ s = t ++ "\n" := by
  rw [isIdOf_iff]
  constructor
  case mp =>
    rintro ⟨k, hk, ha⟩
    obtain ⟨t, ht, rfl | rfl⟩ := accepts_iff.mp ha
    case inl => exact .inl ⟨k, hk, ht⟩
    case inr => exact .inr ⟨t, ⟨k, hk, ht⟩, rfl⟩
  case mpr =>
    rintro (⟨k, hk, hs⟩ | ⟨t, ⟨k, hk, ht⟩, hs⟩)
    case inl => exact ⟨k, hk, accepts_iff.mpr ⟨s, hs, .inl rfl⟩⟩
    case inr => exact ⟨k, hk, accepts_iff.mpr ⟨t, ht, .inr hs⟩⟩

theorem IsIdFor.lineFeed_not_mem (h : IsIdFor kind s) : '\n' ∉ s.toList := by
  obtain ⟨_, _, hs⟩ := h
  exact hs.lineFeed_not_mem

-- What is taken for an identifier of a kind is one, or is one with a line break behind it, which is
-- none; and the pattern of the kind is found in just these texts. What is made is taken for its own
-- kind alone, and nothing but that line break can be put around what is taken.
theorem isIdOf_exact (kind s : String) :
    (isIdOf kind s ↔ IsIdFor kind s ∨ ∃ t, IsIdFor kind t ∧ s = t ++ "\n") ∧
    ((isIdOf kind s ↔ IsIdFor kind s) ↔ ¬∃ t, IsIdFor kind t ∧ s = t ++ "\n") ∧
    (∀ k : IdKind, kind = k.name →
      ∃ p, compile k.pattern = .ok p ∧ p.foundIn s = isIdOf kind s) ∧
    (∀ (k : IdKind) digits, IsDigits digits → (isIdOf kind (k.idOf digits) ↔ kind = k.name)) ∧
    ∀ kind' before after, isIdOf kind s → isIdOf kind' (before ++ s ++ after) →
      before = "" ∧ (after = "" ∨ after = "\n") := by
  refine ⟨isIdOf_iff_isIdFor, ?_, fun k hk => ⟨k.program, compile_pattern, ?_⟩,
    fun k digits hd => ?_, fun kind' before after h h' => ?_⟩
  case refine_1 =>
    have hd : IsIdFor kind s → ¬∃ t, IsIdFor kind t ∧ s = t ++ "\n" := by
      rintro hs ⟨t, _, rfl⟩
      exact hs.lineFeed_not_mem (by simp)
    rw [isIdOf_iff_isIdFor]
    constructor
    case mp => exact fun h hb => hd (h.mp (.inr hb)) hb
    case mpr => exact fun h => ⟨fun hs => hs.resolve_right h, .inl⟩
  case refine_2 => rw [foundIn_program, isIdOf, ofName?_eq_some_iff.mpr hk, Option.any_some]
  case refine_3 =>
    have hi : k.IsId (k.idOf digits) := ⟨digits, hd, rfl⟩
    simp only [isIdOf_iff, hi.accepts_iff_eq, exists_eq_right]
  case refine_4 =>
    obtain ⟨_, _, h⟩ := isIdOf_iff.mp h
    obtain ⟨_, _, h'⟩ := isIdOf_iff.mp h'
    exact around_of_accepts h h'

theorem isIdOf_exact_record :
    IsDigits "00000000deadbeef" ∧
      (∀ kind, isIdOf kind "rec_00000000deadbeef" ↔ kind = "record") ∧
      ∀ after, isIdOf "record" ("" ++ "rec_00000000deadbeef" ++ after) →
        after = "" ∨ after = "\n" := by
  have hd : IsDigits "00000000deadbeef" := ⟨by decide, by simp⟩
  have hi : record.idOf "00000000deadbeef" = "rec_00000000deadbeef" := by decide +kernel
  have hk (kind : String) : isIdOf kind "rec_00000000deadbeef" ↔ kind = "record" := by
    rw [← hi]
    exact (isIdOf_exact kind "").2.2.2.1 .record _ hd
  have ha := (isIdOf_exact "record" "rec_00000000deadbeef").2.2.2.2 "record" ""
  exact ⟨hd, hk, fun after h => (ha after ((hk _).mpr rfl) h).2⟩

theorem isIdOf_lineFeed :
    isIdOf "record" "rec_0123456789abcdef" ∧ isIdOf "record" "rec_0123456789abcdef\n" ∧
      ¬IsIdFor "record" "rec_0123456789abcdef\n" :=
  ⟨by decide +kernel, by decide +kernel, fun h => h.lineFeed_not_mem (by simp)⟩

end EntityCatalog.IdKind
