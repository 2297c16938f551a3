import Mathlib.Tactic.IntervalCases
import Spreadsheet.Address.Cell

/-!
# Labels of columns read back

A column label is a numeral without a zero, so the column that its letters denote is the one that it
was written for.
-/

namespace Spreadsheet

/-- The cell exists: its row and its column are counted from one up to the limit. -/
structure CellAddress.InRange (a : CellAddress) : Prop where
  /-- Rows are counted from one. -/
  row_pos : 1 ≤ a.row
  /-- There is a last row. -/
  row_le : a.row ≤ axisLimit
  /-- Columns are counted from one. -/
  col_pos : 1 ≤ a.col
  /-- There is a last column. -/
  col_le : a.col ≤ axisLimit

instance (a : CellAddress) : Decidable a.InRange :=
  decidable_of_iff ((1 ≤ a.row ∧ a.row ≤ axisLimit) ∧ 1 ≤ a.col ∧ a.col ≤ axisLimit)
    ⟨fun ⟨⟨h₁, h₂⟩, h₃, h₄⟩ => ⟨h₁, h₂, h₃, h₄⟩, fun ⟨h₁, h₂, h₃, h₄⟩ => ⟨⟨h₁, h₂⟩, h₃, h₄⟩⟩

namespace Column

/-- The first letter stands for one, the last one for the base. -/
theorem letterValue_letter {n : Nat} (h : n < 26) : letterValue (letter n) = n + 1 := by
  interval_cases n <;> rfl

private theorem isUpper_letter {n : Nat} (h : n < 26) : (letter n).isUpper = true := by
  interval_cases n <;> rfl

/-- The letters of a column denote it. -/
theorem value_label (n : Nat) : value (label n) = n := by
  induction n using Nat.strong_induction_on with
  | _ n ih =>
    by_cases hn : n = 0
    · subst hn
      rw [label, if_pos rfl]
      rfl
    · have hfront := ih ((n - 1) / 26) (by omega)
      have hlast := letterValue_letter (Nat.mod_lt (n - 1) (by decide : 0 < 26))
      rw [label_of_pos hn, value_append_singleton, hfront, hlast]
      omega

/-- Labels of columns are made of letters. -/
theorem isLetter_of_mem_label {n : Nat} {c : Char} (h : c ∈ label n) : isLetter c = true := by
  induction n using Nat.strong_induction_on with
  | _ n ih =>
    by_cases hn : n = 0
    · subst hn
      rw [label, if_pos rfl] at h
      cases h
    · rw [label_of_pos hn, List.mem_append, List.mem_singleton] at h
      rcases h with hfront | rfl
      · exact ih ((n - 1) / 26) (by omega) hfront
      · rw [isLetter, isUpper_letter (Nat.mod_lt _ (by decide)), Bool.true_or]

/-- Every column has a label. -/
theorem label_ne_nil {n : Nat} (h : n ≠ 0) : label n ≠ [] := by
  rw [label_of_pos h]
  simp

/-- Letters denote a number that is not zero. -/
theorem value_pos {letters : List Char} (h : letters ≠ []) : 0 < value letters := by
  obtain ⟨front, last, rfl⟩ := List.eq_nil_or_concat letters |>.resolve_left h
  rw [List.concat_eq_append, value_append_singleton, letterValue]
  omega

end Column

end Spreadsheet
