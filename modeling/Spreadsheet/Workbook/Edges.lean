import Spreadsheet.Workbook.Basic

/-!
# Edges of the dependency graph

When a formula is written, the edges to the cells it reads are recorded on both sides, and the edges
of the formula before it are taken back. A cell on a sheet that does not exist cannot be an end of
an edge, so edges to such cells are left out until the sheet is there.
-/

namespace Spreadsheet.Workbook

/-- The workbook without `reader` among the readers of the given cells. -/
def detach (reader : QualifiedAddress) (targets : List QualifiedAddress) (wb : Workbook) :
    Workbook :=
  targets.foldl (fun wb target => wb.adjust target (Cell.removeDependent reader)) wb

/-- The workbook with `reader` among the readers of the given cells. -/
def attach (reader : QualifiedAddress) (targets : List QualifiedAddress) (wb : Workbook) :
    Workbook :=
  targets.foldl (fun wb target => wb.update target (Cell.addDependent reader)) wb

/-- The workbook in which `reader` reads the given cells, as far as their sheets exist. -/
def link (reader : QualifiedAddress) (cells : AddressSet) (wb : Workbook) : Workbook :=
  let targets := cells.filter fun target => wb.hasSheet target.sheet
  let detached := wb.detach reader (wb.dependenciesOf reader).toList
  let attached := detached.attach reader targets.toList
  attached.update reader fun c => { c with dependencies := targets }

/-- The workbook in which each of some readers reads its cells, as far as their sheets exist. -/
def linkAll (readers : List (QualifiedAddress × AddressSet)) (wb : Workbook) : Workbook :=
  readers.foldl (fun wb (reader, cells) => wb.link reader cells) wb

end Spreadsheet.Workbook
