import Spreadsheet.Dependency.Order
import Spreadsheet.Document.Settings
import Spreadsheet.Evaluation.Cell
import Spreadsheet.Function.Library

/-!
# Documents

A document is a workbook together with its settings and its formulas in the form in which they were
read. Reading a cell evaluates it from what was written; the values that are kept with formulas
serve those who look at the whole table.
-/

namespace Spreadsheet

/-- Why an operation on a document fails. -/
inductive DocumentError where
  /-- The text of an address names no cell. -/
  | address (e : AddressError)
  /-- The operation does not fit the sheets. -/
  | workbook (e : WorkbookError)
  deriving DecidableEq, Repr

/-- The message of a failed operation. -/
def DocumentError.message : DocumentError → String
  | .address e => e.message
  | .workbook e => e.message

/-- A workbook that is kept up to date. -/
structure Document where
  /-- The sheets and their cells. -/
  workbook : Workbook
  /-- The formulas of the cells whose texts are well formed. -/
  formulas : FormulaTable
  /-- The settings. -/
  settings : Settings

namespace Document

/-- A document with a single sheet. -/
def ofSettings (settings : Settings) : Document :=
  ⟨.ofName settings.defaultSheet, ∅, settings⟩

/-- The name of the active sheet. -/
def activeSheet (doc : Document) : String :=
  doc.workbook.activeName?.getD ""

/-- The sheet that is named, or else the active one. -/
def sheetOrActive (doc : Document) (sheet : Option String) : String :=
  sheet.getD doc.activeSheet

/-- The cell that a text names on a sheet. -/
def resolve (doc : Document) (address : String) (sheet : Option String) :
    Except DocumentError QualifiedAddress :=
  match CellAddress.ofText address with
  | .error e => .error (.address e)
  | .ok cell =>
    let sheet := doc.sheetOrActive sheet
    if doc.workbook.hasSheet sheet then .ok ⟨sheet, cell⟩
    else .error (.workbook (.sheetNotFound sheet))

/-- The outcome of an evaluation as a value. -/
def settleValue : Except Formula.EvaluationError Value → Value
  | .ok v => v
  | .error e => .error (.aborted e.message)

/-- The value of a cell, computed from what was written. -/
def compute (ambient : Ambient) (doc : Document) (a : QualifiedAddress) : Value :=
  settleValue (doc.workbook.evalCell (Function.invoke ambient) doc.formulas doc.settings.maxDepth a)

/-- The value of a cell that a text names; a text that names none has the value of a reference that
leads nowhere. -/
def read (ambient : Ambient) (doc : Document) (address : String) (sheet : Option String) : Value :=
  match doc.resolve address sheet with
  | .ok a => doc.compute ambient a
  | .error _ => .error .invalidReference

/-- The value of a formula that is not written into any cell. -/
def evaluate (ambient : Ambient) (doc : Document) (formula : String) (sheet : Option String) :
    Value :=
  match Formula.read formula with
  | .plain => .text formula
  | .malformed _ => .error .malformedFormula
  | .formula e =>
    settleValue (doc.workbook.evalExpr (Function.invoke ambient) doc.formulas
      doc.settings.maxDepth (doc.sheetOrActive sheet) e)

/-- The record of a cell that a text names. -/
def cell? (doc : Document) (address : String) (sheet : Option String) : Option Cell :=
  match doc.resolve address sheet with
  | .ok a => doc.workbook.cell? a
  | .error _ => none

/-- The sheet that is named, or else the active one. -/
def sheet? (doc : Document) (sheet : Option String) : Option Sheet :=
  doc.workbook.sheet? (doc.sheetOrActive sheet)

/-- The document with another active sheet, if there is a sheet of that name. -/
def activate? (doc : Document) (name : String) : Option Document :=
  (doc.workbook.activate? name).map fun wb => { doc with workbook := wb }

end Document

end Spreadsheet
