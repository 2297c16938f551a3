import Spreadsheet.Formula.References
import Spreadsheet.Proofs.Address.Range
import Spreadsheet.Proofs.Formula.RoundTrip

/-!
# Mentioned cells

A formula mentions cells by their labels. The main statement says that all cells exist that a
formula mentions, those between the corners of its ranges included.
-/

namespace Spreadsheet

namespace Formula

variable {p : Nat} {tokens : List Token} {e : Expr} {sheet : String} {b : QualifiedAddress}

/-- The cells of a reference exist. -/
theorem Refers.inRange {name : Option String} (h : Refers name tokens e)
    (hb : b ∈ e.mentions sheet) : b.cell.InRange := by
  cases h with
  | cell hlabel =>
    obtain rfl := List.mem_singleton.mp hb
    exact hlabel.inRange
  | range hfirst hlast =>
    obtain ⟨cell, hcell, rfl⟩ := List.mem_map.mp hb
    exact CellRange.inRange_of_mem_cells hfirst.inRange hlast.inRange hcell

/-- The cells exist that an expression mentions. -/
theorem Forms.inRange (h : Forms p tokens e) (hb : b ∈ e.mentions sheet) : b.cell.InRange := by
  induction h with
  | number | text | boolean => cases hb
  | reference h | qualified _ h => exact h.inRange hb
  | call name _ ih =>
    obtain ⟨arg, harg, hmem⟩ := Expr.mem_mentionsRow.mp hb
    obtain ⟨part, hpart, rfl⟩ := List.mem_map.mp harg
    exact ih part hpart hmem
  | array _ _ ih =>
    obtain ⟨row, hrow, item, hitem, hmem⟩ := Expr.mem_mentionsRows.mp hb
    obtain ⟨parts, hparts, rfl⟩ := List.mem_map.mp hrow
    obtain ⟨part, hpart, rfl⟩ := List.mem_map.mp hitem
    exact ih parts hparts part hpart hmem
  | parenthesised _ ih | single _ _ ih => exact ih hb
  | signed op _ ih => exact ih hb
  | binary op _ _ ihleft ihright =>
    rcases List.mem_append.mp hb with hb | hb
    · exact ihleft hb
    · exact ihright hb

/-- The cells exist that the formula in a text mentions. -/
theorem inRange_of_read {text : String} (h : Formula.read text = .formula e)
    (hb : b ∈ e.mentions sheet) : b.cell.InRange := by
  unfold Formula.read at h
  split at h
  · rename_i body _
    cases hread : ofText (String.ofList body) with
    | error err => simp [hread] at h
    | ok found =>
      rw [hread] at h
      obtain rfl := Reading.formula.inj h
      obtain ⟨_, _, -, hforms, -⟩ := exists_forms_of_ofText hread
      exact hforms.inRange hb
  · cases h

end Formula

end Spreadsheet
