import Spreadsheet.Cell

/-!
# Sheets

A sheet is a table of cell records under a name. Only cells that were written or read by a formula
have a record; the records are ordered by row, then by column.
-/

namespace Spreadsheet

/-- A named table of cells. -/
structure Sheet where
  /-- The name of the sheet. -/
  name : String
  /-- The records of its cells. -/
  cells : Std.ExtTreeMap CellAddress Cell

namespace Sheet

/-- A sheet without records. -/
def blank (name : String) : Sheet :=
  ⟨name, ∅⟩

/-- The record of a cell. -/
def cell? (sheet : Sheet) (address : CellAddress) : Option Cell :=
  sheet.cells[address]?

/-- The value recorded for a cell. -/
def value (sheet : Sheet) (address : CellAddress) : Value :=
  ((sheet.cell? address).map Cell.value).getD .empty

/-- The sheet with one record replaced, made or removed. -/
def alter (sheet : Sheet) (address : CellAddress) (f : Option Cell → Option Cell) : Sheet :=
  { sheet with cells := sheet.cells.alter address f }

/-- The addresses and records of a sheet in order. -/
def records (sheet : Sheet) : List (CellAddress × Cell) :=
  sheet.cells.toList

/-- The number of records. -/
def size (sheet : Sheet) : Nat :=
  sheet.cells.size

/-- The cells that hold formulas. -/
def formulaCells (sheet : Sheet) : List CellAddress :=
  (sheet.records.filter fun record => record.2.isFormula).map Prod.fst

/-- A sheet keeps its name when a record changes. -/
@[simp] theorem name_alter (sheet : Sheet) (address : CellAddress)
    (f : Option Cell → Option Cell) : (sheet.alter address f).name = sheet.name := rfl

/-- Only the record in question is replaced. -/
theorem cell?_alter (sheet : Sheet) (a b : CellAddress) (f : Option Cell → Option Cell) :
    (sheet.alter a f).cell? b = if a = b then f (sheet.cell? a) else sheet.cell? b := by
  simp [alter, cell?, Std.ExtTreeMap.getElem?_alter]

/-- A new sheet has no records. -/
@[simp] theorem cell?_blank (name : String) (a : CellAddress) : (blank name).cell? a = none := by
  simp [blank, cell?]

end Sheet

end Spreadsheet
