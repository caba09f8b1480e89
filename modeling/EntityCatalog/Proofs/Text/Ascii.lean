import EntityCatalog.Text.Case

namespace EntityCatalog.Text

def isAscii (c : Char) : Bool := c.toNat < 0x80

variable {c : Char} {cs : List Char}

theorem ne_of_ascii {w : Char} (h : isAscii c) (hw : ¬isAscii w) : c ≠ w :=
  fun e => hw (e ▸ h)

theorem lowerChar_of_ascii (h : isAscii c) : lowerChar c = c.toLower := by
  have hi : c ≠ 'İ' := ne_of_ascii h (by decide)
  have hc : c.toNat < 0x80 := by simpa [isAscii] using h
  simp [lowerChar, hi, hc]

theorem lowerAt_of_ascii {before after : List Char} (h : isAscii c) :
    lowerAt before c after = [c.toLower] := by
  have hs : c ≠ 'Σ' := ne_of_ascii h (by decide)
  have hi : c ≠ 'İ' := ne_of_ascii h (by decide)
  simp [lowerAt, hs, hi, lowerChar_of_ascii h]

theorem lowerAux_of_ascii {before : List Char} (h : ∀ c ∈ cs, isAscii c) :
    lowerAux before cs = cs.map Char.toLower := by
  induction cs generalizing before
  case nil => rfl
  case cons c cs hi =>
    have ⟨hc, hcs⟩ := List.forall_mem_cons.mp h
    simp [lowerAux, lowerAt_of_ascii hc, hi hcs]

theorem lower_of_ascii (h : ∀ c ∈ cs, isAscii c) : lower cs = cs.map Char.toLower :=
  lowerAux_of_ascii h

end EntityCatalog.Text
