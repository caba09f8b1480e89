import EntityCatalog.Text.Blank
import Mathlib.Data.List.DropRight

namespace EntityCatalog.Text

theorem strip_eq (cs : List Char) : strip cs = (cs.dropWhile isBlank).rdropWhile isBlank := rfl

-- What is stripped from the right leaves the first character, which is not blank by then.
theorem stripLeft_strip (cs : List Char) : stripLeft (strip cs) = strip cs := by
  have hp : strip cs <+: cs.dropWhile isBlank := List.rdropWhile_prefix isBlank _
  cases hs : strip cs
  case nil => rfl
  case cons c rest =>
    have ⟨after, ha⟩ := hs ▸ hp
    have hc : isBlank c = false := by
      simpa [← ha] using List.head?_dropWhile_not isBlank cs
    exact List.dropWhile_cons_of_neg (by simp [hc])

theorem strip_strip (cs : List Char) : strip (strip cs) = strip cs := by
  have h : strip (strip cs) = (stripLeft (strip cs)).rdropWhile isBlank := rfl
  rw [h, stripLeft_strip, strip_eq, List.rdropWhile_idempotent]

def startsBlank (cs : List Char) : Bool := cs.head?.any isBlank

def endsBlank (cs : List Char) : Bool := cs.getLast?.any isBlank

theorem not_endsBlank_append {cs ds : List Char} (hc : ¬endsBlank cs) (hd : ¬endsBlank ds) :
    ¬endsBlank (cs ++ ds) := by
  unfold endsBlank at *
  rw [List.getLast?_append]
  cases h : ds.getLast?
  case none => simpa using hc
  case some d => simpa [h] using hd

theorem not_startsBlank_append {cs ds : List Char} (hn : cs ≠ []) (hc : ¬startsBlank cs) :
    ¬startsBlank (cs ++ ds) := by
  cases cs
  case nil => exact absurd rfl hn
  case cons => exact hc

theorem stripLeft_of_not_startsBlank {cs : List Char} (h : ¬startsBlank cs) :
    stripLeft cs = cs := by
  cases cs
  case nil => rfl
  case cons c cs => exact List.dropWhile_cons_of_neg (by simpa [startsBlank] using h)

theorem strip_eq_self {cs : List Char} (hs : ¬startsBlank cs) (he : ¬endsBlank cs) :
    strip cs = cs := by
  have hr : ¬startsBlank cs.reverse := by simpa [startsBlank, endsBlank] using he
  rw [strip, stripRight, stripLeft_of_not_startsBlank hs, stripLeft_of_not_startsBlank hr,
    List.reverse_reverse]

theorem stripLeft_append_of_blank {cs ds : List Char} (h : ∀ c ∈ cs, isBlank c) :
    stripLeft (cs ++ ds) = stripLeft ds :=
  List.dropWhile_append_of_pos h

theorem strip_append_append {cs l r : List Char} (hl : ∀ c ∈ l, isBlank c)
    (hr : ∀ c ∈ r, isBlank c) (hn : cs ≠ []) (hs : ¬startsBlank cs) (he : ¬endsBlank cs) :
    strip (l ++ cs ++ r) = cs := by
  have hs : ¬startsBlank (cs ++ r) := not_startsBlank_append hn hs
  have he : ¬startsBlank cs.reverse := by simpa [startsBlank, endsBlank] using he
  rw [strip, stripRight, List.append_assoc, stripLeft_append_of_blank hl,
    stripLeft_of_not_startsBlank hs, List.reverse_append,
    stripLeft_append_of_blank (by simpa using hr), stripLeft_of_not_startsBlank he,
    List.reverse_reverse]

theorem not_startsBlank_of_strip {cs : List Char} (h : strip cs = cs) : ¬startsBlank cs := by
  have hl := stripLeft_strip cs
  rw [h] at hl
  cases cs
  case nil => decide
  case cons c cs =>
    intro hb
    have hb : isBlank c := by simpa [startsBlank] using hb
    have hs : (stripLeft cs).length ≤ cs.length := (List.dropWhile_suffix _).length_le
    rw [stripLeft, List.dropWhile_cons_of_pos hb] at hl
    change stripLeft cs = _ at hl
    rw [hl] at hs
    exact Nat.not_succ_le_self _ hs

theorem not_endsBlank_of_strip {cs : List Char} (h : strip cs = cs) : ¬endsBlank cs := by
  unfold endsBlank
  cases hc : cs.getLast?
  case none => simp
  case some c =>
    rw [← h, strip_eq] at hc
    have hn : (cs.dropWhile isBlank).rdropWhile isBlank ≠ [] := by
      intro he
      rw [he] at hc
      cases hc
    rw [List.getLast?_eq_some_getLast hn] at hc
    cases hc
    exact List.rdropWhile_last_not isBlank _ hn

end EntityCatalog.Text

namespace String

@[simp] theorem stripped_stripped {s : String} : s.stripped.stripped = s.stripped := by
  simp [stripped, EntityCatalog.Text.strip_strip]

end String
