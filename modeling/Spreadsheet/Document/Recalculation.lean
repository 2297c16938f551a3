import Spreadsheet.Document.Basic

/-!
# Recalculation

The values kept with formulas are computed anew, those of the cells that read a changed cell or
those of all cells, a cell always after the cells that it reads.
-/

namespace Spreadsheet.Document

/-- The document with the value of a cell computed anew. -/
def refresh (ambient : Ambient) (doc : Document) (a : QualifiedAddress) : Document :=
  let v := doc.compute ambient a
  { doc with workbook := doc.workbook.update a fun c => { c with value := v } }

/-- The document with the values of some cells computed anew, one after the other. -/
def refreshAll (ambient : Ambient) (doc : Document) (cells : List QualifiedAddress) : Document :=
  cells.foldl (refresh ambient) doc

/-- The cells to recalculate after a change. -/
def affected (doc : Document) (changed : QualifiedAddress) : List QualifiedAddress :=
  match doc.settings.mode with
  | .directDependents => doc.workbook.readers changed
  | .transitive => doc.workbook.recalculationOrder changed

/-- The document after the recalculation that a change calls for. -/
def propagate (ambient : Ambient) (doc : Document) (changed : QualifiedAddress) : Document :=
  doc.refreshAll ambient (doc.affected changed)

/-- The document with the values of all formulas computed anew. -/
def recalculate (ambient : Ambient) (doc : Document) : Document :=
  doc.refreshAll ambient (doc.workbook.order (Std.ExtTreeSet.ofList doc.workbook.formulaCells))

end Spreadsheet.Document
