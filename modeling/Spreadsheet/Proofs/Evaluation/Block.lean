import Mathlib.Data.List.Forall2
import Spreadsheet.Proofs.Address.Range
import Spreadsheet.Proofs.Evaluation.Aggregate

/-!
# Tables of the cells of a range

The cells that a range lists for the dependencies of a formula are those that it is evaluated from:
its value is the table of their values, with as many rows and columns as the range, and row by row
it holds them in the order of the list. A range on a sheet that does not exist is no table but a
single error, although each of its cells has a value, which is that error.
-/

namespace Spreadsheet

namespace Formula

/-- A row of computations has the results that they have one by one. -/
theorem mapM_eq_ok_iff {ε α β : Type} {f : α → Except ε β} {l : List α} {bs : List β} :
    l.mapM f = .ok bs ↔ List.Forall₂ (fun a b => f a = .ok b) l bs := by
  induction l generalizing bs with
  | nil =>
    rw [List.mapM_nil, List.forall₂_nil_left_iff]
    exact ⟨fun h => (Except.ok.inj h).symm, fun h => h ▸ rfl⟩
  | cons a l ih =>
    rw [List.mapM_cons, List.forall₂_cons_left_iff]
    constructor
    · intro h
      obtain ⟨b, hb, hrest⟩ := bind_eq_ok h
      obtain ⟨bs', hbs, hcons⟩ := bind_eq_ok hrest
      exact ⟨b, bs', hb, ih.mp hbs, (Except.ok.inj hcons).symm⟩
    · rintro ⟨b, bs', hb, hbs, rfl⟩
      rw [hb, ih.mpr hbs]
      rfl

/-- The table has the rows and the columns of the block, and row by row its values are those of the
cells of the block. -/
structure Tabulates (read : CellAddress → Except EvaluationError Value) (block : CellRange)
    (table : List (List Value)) : Prop where
  /-- There are as many rows. -/
  length_eq : table.length = block.height
  /-- There are as many values in each row as there are columns. -/
  row_length_eq : ∀ row ∈ table, row.length = block.width
  /-- The values are those of the cells, one after the other. -/
  flatten : List.Forall₂ (fun cell v => read cell = .ok v) block.cells table.flatten

variable {read : CellAddress → Except EvaluationError Value} {block : CellRange}
  {table : List (List Value)}

/-- Reading the columns of each row makes the table of the block. -/
theorem tabulates_of_mapM
    (h : (block.rows.mapM fun row => block.cols.mapM fun col => read ⟨row, col⟩) = .ok table) :
    Tabulates read block table := by
  have hrows : List.Forall₂ (fun values row =>
      values.length = block.width ∧
        List.Forall₂ (fun v cell => read cell = .ok v) values
          (block.cols.map fun col => ⟨row, col⟩)) table block.rows := by
    refine ((mapM_eq_ok_iff.mp h).imp fun row values hrow => ?_).flip
    have hvalues := mapM_eq_ok_iff.mp hrow
    exact ⟨hvalues.length_eq.symm.trans block.length_cols,
      List.forall₂_map_right_iff.mpr hvalues.flip⟩
  obtain ⟨hwidth, hcells⟩ := (List.forall₂_and_left _ _).mp hrows
  refine ⟨hrows.length_eq.trans block.length_rows, hwidth, ?_⟩
  rw [CellRange.cells, List.flatMap_def]
  exact (List.rel_flatten (List.forall₂_map_right_iff.mpr hcells)).flip

/-- On a sheet that exists, the value of a range is the table of its cells. -/
theorem Surroundings.exists_tabulates_of_range {s : Surroundings} {first last : Reference}
    {v : Value} (hsheet : s.hasSheet (first.sheetOn s.sheet) = true)
    (h : s.range first last = .ok v) :
    ∃ table, v = .array table ∧
      Tabulates (fun cell => s.read ⟨first.sheetOn s.sheet, cell⟩)
        (CellRange.ofCorners first.cell last.cell) table := by
  rw [range_eq hsheet] at h
  cases hrows : s.rangeRows first last with
  | error e =>
    rw [hrows] at h
    cases h
  | ok table =>
    rw [hrows] at h
    exact ⟨table, (Except.ok.inj h).symm, tabulates_of_mapM hrows⟩

end Formula

namespace Workbook

open Formula

variable {call : String → List Value → Value} {wb : Workbook} {formulas : FormulaTable}
  {depth : Nat} {sheet : String} {first last : Reference}

/-- A range cannot be evaluated exactly if one of its cells cannot. -/
theorem evalExpr_range_eq_depthExceeded_iff :
    wb.evalExpr call formulas depth sheet (.range first last) = .error .depthExceeded ↔
      ∃ cell ∈ (CellRange.ofCorners first.cell last.cell).cells,
        wb.evalCell call formulas depth ⟨first.sheetOn sheet, cell⟩ = .error .depthExceeded := by
  rw [evalExpr, Expr.eval_eq_depthExceeded_iff (wb.missingRead formulas depth sheet call)]
  simp only [Expr.mentions, rangeCells, List.mem_map, exists_exists_and_eq_and]

/-- On a sheet that does not exist, a range is an error. -/
theorem evalExpr_range_of_missing (h : wb.hasSheet (first.sheetOn sheet) = false) :
    wb.evalExpr call formulas depth sheet (.range first last) =
      .ok (.error .invalidReference) := by
  rw [evalExpr, Expr.eval, Surroundings.range]
  exact if_neg (Bool.eq_false_iff.mp h)

/-- Cells that have values have their table for the value of the range. -/
theorem exists_evalExpr_range_eq (hsheet : wb.hasSheet (first.sheetOn sheet) = true)
    (hcells : ∀ cell ∈ (CellRange.ofCorners first.cell last.cell).cells,
      ∃ v, wb.evalCell call formulas depth ⟨first.sheetOn sheet, cell⟩ = .ok v) :
    ∃ table, wb.evalExpr call formulas depth sheet (.range first last) = .ok (.array table) ∧
      Tabulates (fun cell => wb.evalCell call formulas depth ⟨first.sheetOn sheet, cell⟩)
        (CellRange.ofCorners first.cell last.cell) table := by
  cases hvalue : wb.evalExpr call formulas depth sheet (.range first last) with
  | error e =>
    obtain ⟨cell, hcell, hfails⟩ := evalExpr_range_eq_depthExceeded_iff.mp hvalue
    obtain ⟨v, hv⟩ := hcells cell hcell
    rw [hfails] at hv
    cases hv
  | ok v =>
    obtain ⟨table, rfl, htable⟩ := Surroundings.exists_tabulates_of_range hsheet hvalue
    exact ⟨table, rfl, htable⟩

/-- Two corners that exist, in whatever order they are given, have exactly the cells between them
listed, row by row and each once, and their rows and columns are counted in words. The range with
these corners has for its value the table of the values of the listed cells, if its sheet exists and
the cells have values. It cannot be evaluated exactly if one of the cells cannot, and it is an error
if its sheet does not exist. -/
theorem cells_enumerated_and_range_tabulated (call : String → List Value → Value)
    (wb : Workbook) (formulas : FormulaTable) (depth : Nat) (sheet : String)
    (first last : Reference) (hfirst : first.cell.InRange) (hlast : last.cell.InRange) :
    let block := CellRange.ofCorners first.cell last.cell
    let read := fun cell => wb.evalCell call formulas depth ⟨first.sheetOn sheet, cell⟩
    let value := wb.evalExpr call formulas depth sheet (.range first last)
    block.Enumerates first.cell last.cell ∧
      (wb.hasSheet (first.sheetOn sheet) = true →
        (∀ cell ∈ block.cells, ∃ v, read cell = .ok v) →
          ∃ table, value = .ok (.array table) ∧ Tabulates read block table) ∧
      (value = .error .depthExceeded ↔
        ∃ cell ∈ block.cells, read cell = .error .depthExceeded) ∧
      (wb.hasSheet (first.sheetOn sheet) = false → value = .ok (.error .invalidReference)) :=
  ⟨CellRange.enumerates_ofCorners hfirst hlast, exists_evalExpr_range_eq,
    evalExpr_range_eq_depthExceeded_iff, evalExpr_range_of_missing⟩

/-- The corners at the bottom left and at the top right of a block with cells of all kinds. -/
theorem range_tabulated_cellsOfAllKinds :
    let doc := Document.cellsOfAllKinds
    let block := CellRange.ofCorners ⟨4, 1⟩ ⟨1, 3⟩
    let read := fun cell => doc.workbook.evalCell (Function.invoke .newYear) doc.formulas
      doc.settings.maxDepth ⟨"Sheet1", cell⟩
    (⟨4, 1⟩ : CellAddress).InRange ∧ (⟨1, 3⟩ : CellAddress).InRange ∧
      doc.workbook.hasSheet "Sheet1" = true ∧ (∀ cell ∈ block.cells, ∃ v, read cell = .ok v) ∧
      block.Enumerates ⟨4, 1⟩ ⟨1, 3⟩ ∧
      ∃ table, doc.workbook.evalExpr (Function.invoke .newYear) doc.formulas doc.settings.maxDepth
          "Sheet1" (.range ⟨none, ⟨4, 1⟩⟩ ⟨none, ⟨1, 3⟩⟩) = .ok (.array table) ∧
        Tabulates read block table := by
  intro doc block read
  have hfirst : (⟨4, 1⟩ : CellAddress).InRange := by decide
  have hlast : (⟨1, 3⟩ : CellAddress).InRange := by decide
  have hsheet : doc.workbook.hasSheet "Sheet1" = true := by decide +kernel
  have hcells : ∀ cell ∈ block.cells, ∃ v, read cell = .ok v := by
    have htest : ∀ cell ∈ block.cells, (read cell).toOption.isSome = true := by decide +kernel
    intro cell hcell
    have hsome := htest cell hcell
    cases hread : read cell with
    | ok v => exact ⟨v, rfl⟩
    | error e =>
      rw [hread] at hsome
      cases hsome
  obtain ⟨hlisted, htable, -⟩ := cells_enumerated_and_range_tabulated (Function.invoke .newYear)
    doc.workbook doc.formulas doc.settings.maxDepth "Sheet1" ⟨none, ⟨4, 1⟩⟩ ⟨none, ⟨1, 3⟩⟩ hfirst
    hlast
  exact ⟨hfirst, hlast, hsheet, hcells, hlisted, htable hsheet hcells⟩

/-- On a sheet that does not exist, every cell between two corners has a value, but the range is no
table of these values. -/
theorem not_range_tabulated_on_missing_sheet :
    let wb := Workbook.ofName "Sheet1"
    let block := CellRange.ofCorners ⟨1, 1⟩ ⟨2, 2⟩
    let read := fun cell => wb.evalCell (Function.invoke .newYear) ∅ 1 ⟨"Data", cell⟩
    (⟨1, 1⟩ : CellAddress).InRange ∧ (⟨2, 2⟩ : CellAddress).InRange ∧
      (∀ cell ∈ block.cells, read cell = .ok (.error .invalidReference)) ∧
      ¬∃ table, wb.evalExpr (Function.invoke .newYear) ∅ 1 "Sheet1"
          (.range ⟨some "Data", ⟨1, 1⟩⟩ ⟨none, ⟨2, 2⟩⟩) = .ok (.array table) ∧
        Tabulates read block table := by
  intro wb block read
  have hsheet : wb.hasSheet "Data" = false := by decide +kernel
  refine ⟨by decide, by decide, fun cell _ => evalCell_of_missing hsheet 1, ?_⟩
  rintro ⟨table, htable, -⟩
  rw [evalExpr_range_of_missing hsheet] at htable
  cases htable

end Workbook

end Spreadsheet
