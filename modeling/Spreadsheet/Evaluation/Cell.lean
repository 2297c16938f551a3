import Spreadsheet.Dependency.Cycle
import Spreadsheet.Evaluation.Expr
import Spreadsheet.Formula.Parser

/-!
# Values of cells

A cell is evaluated from what was written into it: an error that is recorded, a formula, or a raw
value, in this order. Values that formulas had earlier are never looked at. A cell that leads into a
cycle has no value but an error, and formulas that refer to formulas may do so only to a limited
depth.
-/

namespace Spreadsheet

/-- The formulas of cells that have been read already. -/
abbrev FormulaTable := Std.ExtTreeMap QualifiedAddress Formula.Expr

/-- What a cell has its value from. -/
inductive Content where
  /-- The value is known. -/
  | known (v : Value)
  /-- The value is that of a formula. -/
  | formula (e : Formula.Expr)

namespace Workbook

open Formula

/-- What the formula text of a cell stands for. -/
def contentOfText (s : String) : Content :=
  match Formula.read s with
  | .formula e => .formula e
  | .plain => .known (.text s)
  | .malformed _ => .known (.error .malformedFormula)

/-- What a cell with a record has its value from. -/
def contentOfRecord (formulas : FormulaTable) (a : QualifiedAddress) (c : Cell) : Content :=
  match c.error, c.formula with
  | some e, _ => .known (.error e)
  | none, none => .known c.value
  | none, some s =>
    match formulas[a]? with
    | some e => .formula e
    | none => contentOfText s

/-- What a cell has its value from. -/
def content (wb : Workbook) (formulas : FormulaTable) (a : QualifiedAddress) : Content :=
  if !wb.hasSheet a.sheet then .known (.error .invalidReference)
  else if wb.reachesCycle a then .known (.error .circularReference)
  else
    match wb.cell? a with
    | none => .known .empty
    | some c => contentOfRecord formulas a c

/-- The value of a cell, formulas being followed to the given depth. -/
def evalCell (call : String → List Value → Value) (wb : Workbook) (formulas : FormulaTable) :
    (depth : Nat) → QualifiedAddress → Except EvaluationError Value
  | 0, a =>
    match wb.content formulas a with
    | .known v => .ok v
    | .formula _ => .error .depthExceeded
  | depth + 1, a =>
    match wb.content formulas a with
    | .known v => .ok v
    | .formula e => e.eval ⟨a.sheet, wb.hasSheet, evalCell call wb formulas depth, call⟩

/-- The value of an expression on a sheet, formulas being followed to the given depth. -/
def evalExpr (call : String → List Value → Value) (wb : Workbook) (formulas : FormulaTable)
    (depth : Nat) (sheet : String) (e : Expr) : Except EvaluationError Value :=
  e.eval ⟨sheet, wb.hasSheet, evalCell call wb formulas depth, call⟩

end Workbook

end Spreadsheet
