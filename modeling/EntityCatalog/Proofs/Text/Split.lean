import EntityCatalog.Text.Split
import Mathlib.Data.List.Basic

namespace EntityCatalog.Text

variable {sep c : Char} {part rest start cs : List Char} {parts : List (List Char)}

theorem splitOn_of_not_mem (h : sep ∉ part) : splitOn sep part = [part] := by
  induction part
  case nil => rfl
  case cons c cs hi =>
    obtain ⟨hc, hcs⟩ := not_or.mp (List.mem_cons.not.mp h)
    rw [splitOn, if_neg (Ne.symm hc), hi hcs]

theorem splitOn_append (h : sep ∉ part) :
    splitOn sep (part ++ sep :: rest) = part :: splitOn sep rest := by
  induction part
  case nil => simp [splitOn]
  case cons c cs hi =>
    obtain ⟨hc, hcs⟩ := not_or.mp (List.mem_cons.not.mp h)
    rw [List.cons_append, splitOn, if_neg (Ne.symm hc), hi hcs]

theorem joinWith_cons (hn : parts ≠ []) :
    joinWith sep (part :: parts) = part ++ sep :: joinWith sep parts := by
  cases parts
  case nil => exact absurd rfl hn
  case cons => rfl

theorem splitOn_joinWith (hn : parts ≠ []) (h : ∀ part ∈ parts, sep ∉ part) :
    splitOn sep (joinWith sep parts) = parts := by
  induction parts
  case nil => exact absurd rfl hn
  case cons part parts hi =>
    have ⟨hp, hps⟩ := List.forall_mem_cons.mp h
    by_cases hn : parts = []
    case pos => simpa [hn, joinWith] using splitOn_of_not_mem hp
    case neg => rw [joinWith_cons hn, splitOn_append hp, hi hn hps]

theorem mem_joinWith (h : c ∈ joinWith sep parts) : c = sep ∨ ∃ part ∈ parts, c ∈ part := by
  induction parts
  case nil => cases h
  case cons part parts hi =>
    by_cases hn : parts = []
    case pos => exact .inr ⟨part, by simp, by simpa [hn, joinWith] using h⟩
    case neg =>
      rw [joinWith_cons hn, List.mem_append, List.mem_cons] at h
      rcases h with hc | hc | hc
      case inl => exact .inr ⟨part, by simp, hc⟩
      case inr.inl => exact .inl hc
      case inr.inr =>
        have hi := hi hc
        simp only [List.mem_cons, exists_eq_or_imp]
        exact hi.imp_right .inr

theorem prefix_joinWith : part <+: joinWith sep (part :: parts) := by
  by_cases hn : parts = []
  case pos => simp [hn, joinWith]
  case neg => rw [joinWith_cons hn]; exact List.prefix_append ..

theorem cutAt_append (h : sep ∉ part) : cutAt sep (part ++ sep :: rest) = some (part, rest) := by
  induction part
  case nil => simp [cutAt]
  case cons c cs hi =>
    obtain ⟨hc, hcs⟩ := not_or.mp (List.mem_cons.not.mp h)
    rw [List.cons_append, cutAt, if_neg (Ne.symm hc), hi hcs]
    rfl

theorem cutAt_eq_none {cs : List Char} (h : sep ∉ cs) : cutAt sep cs = none := by
  induction cs
  case nil => rfl
  case cons c cs hi =>
    obtain ⟨hc, hcs⟩ := not_or.mp (List.mem_cons.not.mp h)
    rw [cutAt, if_neg (Ne.symm hc), hi hcs]
    rfl

theorem after?_append : after? start (start ++ rest) = some rest := by
  simp [after?]

theorem eq_append_of_after? (h : after? start cs = some rest) : cs = start ++ rest := by
  unfold after? at h
  split at h <;> cases h
  case isTrue.refl hp =>
    exact (List.prefix_iff_eq_append.mp (List.isPrefixOf_iff_prefix.mp hp)).symm

theorem after?_eq_none_iff : after? start cs = none ↔ ¬start <+: cs := by
  simp [after?]

end EntityCatalog.Text
