import Spreadsheet.Address.Qualified
import Spreadsheet.Address.Range
import Spreadsheet.Formula.Expr

/-!
# The cells that an expression reads

An expression reads the cells it names and all cells of its ranges. A name without a sheet is taken
on the sheet of the formula.
-/

namespace Spreadsheet.Formula

/-- The sheet of a reference in a formula of the given sheet. -/
def Reference.sheetOn (r : Reference) (sheet : String) : String :=
  r.sheet.getD sheet

/-- The cell that a reference in a formula of the given sheet means. -/
def Reference.on (r : Reference) (sheet : String) : QualifiedAddress :=
  ⟨r.sheetOn sheet, r.cell⟩

/-- The cells of a range in a formula of the given sheet. -/
def rangeCells (first last : Reference) (sheet : String) : List QualifiedAddress :=
  (CellRange.ofCorners first.cell last.cell).cells.map fun cell => ⟨first.sheetOn sheet, cell⟩

namespace Expr

mutual
/-- The cells that an expression of the given sheet mentions, in order and with repetitions. -/
def mentions (sheet : String) : Expr → List QualifiedAddress
  | .cell r => [r.on sheet]
  | .range a b => rangeCells a b sheet
  | .call _ args => mentionsRow sheet args
  | .binary _ a b => mentions sheet a ++ mentions sheet b
  | .unary _ a => mentions sheet a
  | .array rows => mentionsRows sheet rows
  | _ => []

/-- The cells that the expressions of a row mention. -/
def mentionsRow (sheet : String) : List Expr → List QualifiedAddress
  | [] => []
  | e :: row => mentions sheet e ++ mentionsRow sheet row

/-- The cells that the expressions of a table mention. -/
def mentionsRows (sheet : String) : List (List Expr) → List QualifiedAddress
  | [] => []
  | row :: rows => mentionsRow sheet row ++ mentionsRows sheet rows
end

/-- The cells that a row mentions are those of its expressions. -/
theorem mem_mentionsRow {sheet : String} {b : QualifiedAddress} {row : List Expr} :
    b ∈ mentionsRow sheet row ↔ ∃ e ∈ row, b ∈ e.mentions sheet := by
  induction row with
  | nil => simp [mentionsRow]
  | cons e row ih => simp [mentionsRow, ih]

/-- The cells that a table mentions are those of its expressions. -/
theorem mem_mentionsRows {sheet : String} {b : QualifiedAddress} {rows : List (List Expr)} :
    b ∈ mentionsRows sheet rows ↔ ∃ row ∈ rows, ∃ e ∈ row, b ∈ e.mentions sheet := by
  induction rows with
  | nil => simp [mentionsRows]
  | cons row rows ih => simp [mentionsRows, mem_mentionsRow, ih]

/-- The set of cells that an expression of the given sheet reads. -/
def references (sheet : String) (e : Expr) : AddressSet :=
  Std.ExtTreeSet.ofList (e.mentions sheet)

/-- A cell is read exactly if it is mentioned. -/
theorem mem_references {sheet : String} {e : Expr} {a : QualifiedAddress} :
    a ∈ e.references sheet ↔ a ∈ e.mentions sheet := by
  simp [references, Std.ExtTreeSet.mem_ofList]

end Expr

end Spreadsheet.Formula
